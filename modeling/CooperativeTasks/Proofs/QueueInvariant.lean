import CooperativeTasks.Proofs.QueueAccounting

set_option autoImplicit false

/-! No task is lost, queued twice or entered while it is running.

As long as tasks are stepped by turns of the queue alone, the queue and the stack of running
tasks hold the unfinished tasks and nothing else, apart from the one that a turn has just taken
out. Steps past the queue can leave finished tasks in it. Both hold at every moment of a run in
which nothing faults; a fault leaves the task of the faulting turn out of the queue. -/

namespace CooperativeTasks

/-- A turn has just taken the task out of the queue, or found it waiting, or is about to run its
statement. -/
def Session.JustTaken (id : TaskId) (session : Session) : Prop :=
  session.journal.head? = some (.dequeued id) ∨
    (∃ awaited, session.journal.head? = some (.stillWaiting id awaited)) ∨
    ∃ index reading, session.journal.head? = some (.stepped id index reading)

def Session.AccountedFor (strict : Prop) (session : Session) : Prop :=
  ∃ popped, session.scheduler.Accounted strict popped ∧
    ∀ id, popped = some id → session.JustTaken id

theorem Scheduler.Accounted.session {strict : Prop} {session : Session}
    (accounted : session.scheduler.Accounted strict none) : session.AccountedFor strict :=
  ⟨none, accounted, fun _ impossible => nomatch impossible⟩

/-- Tasks are accounted for at all moments, except those after which the run ends in a fault. -/
def accountWatch (strict : Prop) : Watch where
  extra := none
  excuses := True
  Along _ _ := True
  Moment session := session.AccountedFor strict
  Sees moment _ outcome := moment.AccountedFor strict ∨ outcome.Faulted
  refl _ := trivial
  trans _ _ := trivial
  now here _ := .inl here
  later seen _ := by
    rcases seen with here | ⟨cause, after, impossible, _⟩
    · exact .inl here
    · cases impossible
  handled seen _ relays := by
    rcases seen with here | ⟨cause, left, fault, unlimited⟩
    · exact .inl here
    · cases fault
      exact .inr (relays trivial cause rfl unlimited)
  halted seen := by
    rcases seen with here | ⟨cause, left, impossible, _⟩
    · exact .inl here
    · cases impossible
  excused _ := ⟨rfl, fun _ _ => trivial, fun _ _ _ faulted => .inr faulted⟩

/-- The tasks on the stack, and the queue by which they are told to be queued or not. -/
structure RunningTasks where
  stack : List TaskId
  queued : List TaskId

/-- Tasks are accounted for, and no running task has been put into the queue or taken out of it. -/
structure RunningTasks.Rest (strict : Prop) (popped : Option TaskId) (tasks : RunningTasks)
    (scheduler : Scheduler) : Prop where
  accounted : scheduler.Accounted strict popped
  active : scheduler.active = tasks.stack
  queued : ∀ id, id ∈ tasks.stack → (id ∈ scheduler.queue.ids ↔ id ∈ tasks.queued)

namespace RunningTasks

variable {strict : Prop} {popped : Option TaskId} {tasks : RunningTasks} {scheduler : Scheduler}

theorem Rest.alike (rests : tasks.Rest strict popped scheduler) {other : Scheduler}
    (same : scheduler.Alike other) : tasks.Rest strict popped other := by
  refine ⟨rests.accounted.alike same, ?_, ?_⟩
  · rw [same.active]
    exact rests.active
  · rw [same.queue]
    exact rests.queued

/-- The task of a step is in the hands of a turn, or is stepped `outside`, while nothing runs. -/
structure Held (strict : Prop) (outside : Bool) (tasks : RunningTasks) (id : TaskId)
    (scheduler : Scheduler) : Prop where
  rest : tasks.Rest strict (if outside then none else some id) scheduler
  alone : outside = true → ¬ strict ∧ tasks.stack = []

namespace Held

variable {outside : Bool} {id : TaskId}

theorem idle (held : tasks.Held strict outside id scheduler) : id ∉ scheduler.active := by
  cases outside with
  | false => exact (held.rest.accounted.apart id rfl).2
  | true =>
      rw [held.rest.active, (held.alone rfl).2]
      exact List.not_mem_nil

theorem unqueued (held : tasks.Held strict outside id scheduler) (holds : strict) :
    id ∉ scheduler.queue.ids := by
  cases outside with
  | false => exact (held.rest.accounted.apart id rfl).1
  | true => exact absurd holds (held.alone rfl).1

theorem modifyTask (held : tasks.Held strict outside id scheduler) {change : Task → Task}
    (keeps : ∀ task, (change task).isFinished = task.isFinished) :
    tasks.Held strict outside id (scheduler.modifyTask id change) :=
  ⟨⟨held.rest.accounted.modifyTask keeps id, held.rest.active, held.rest.queued⟩, held.alone⟩

theorem finish (held : tasks.Held strict outside id scheduler) {change : Task → Task}
    (completes : ∀ task, (change task).isFinished = true) :
    tasks.Held strict outside id (scheduler.modifyTask id change) :=
  ⟨⟨held.rest.accounted.finish completes held.idle held.unqueued, held.rest.active,
    held.rest.queued⟩, held.alone⟩

def inside (tasks : RunningTasks) (id : TaskId) (scheduler : Scheduler) : RunningTasks :=
  ⟨id :: tasks.stack, scheduler.queue.ids⟩

theorem enter (held : tasks.Held strict outside id scheduler) (lives : scheduler.Unfinished id) :
    (inside tasks id scheduler).Rest strict none
      { scheduler with active := id :: scheduler.active } := by
  refine ⟨held.rest.accounted.enter lives ?_ held.idle held.unqueued ?_, ?_, fun _ _ => Iff.rfl⟩
  · cases outside with
    | false => exact .inl rfl
    | true => exact .inr rfl
  · intro queued
    cases outside with
    | false => exact absurd queued (held.rest.accounted.apart id rfl).1
    | true =>
        rw [held.rest.active]
        exact (held.alone rfl).2
  · rw [held.rest.active]
    rfl

theorem leave (held : tasks.Held strict outside id scheduler) (lives : scheduler.Unfinished id)
    {left : Scheduler} (rests : (inside tasks id scheduler).Rest strict none left) :
    tasks.Held strict outside id left.abandoned := by
  have same (other : TaskId) (runs : other ∈ id :: tasks.stack) :
      other ∈ left.queue.ids ↔ other ∈ scheduler.queue.ids := rests.queued other runs
  refine ⟨⟨rests.accounted.leave rests.active ?_, ?_, ?_⟩, held.alone⟩
  · rw [same id List.mem_cons_self]
    cases outside with
    | false => exact .inl ⟨rfl, (held.rest.accounted.apart id rfl).1⟩
    | true =>
        refine .inr ⟨rfl, ?_⟩
        -- Nothing runs and nothing is in the hands of a turn, so the task has to be queued.
        rcases held.rest.accounted.covered id lives with queued | runs | impossible
        · exact queued
        · exact absurd runs held.idle
        · cases impossible
  · unfold Scheduler.abandoned
    rw [rests.active]
    rfl
  · intro other runs
    exact (same other (List.mem_cons_of_mem id runs)).trans (held.rest.queued other runs)

end Held

end RunningTasks

/-! ### Steps and turns -/

namespace RunningTasks

variable {strict : Prop} {outside : Bool}

theorem held_moment {tasks : RunningTasks} {id : TaskId} {session : Session}
    (held : tasks.Held strict outside id session.scheduler) (taken : session.JustTaken id) :
    session.AccountedFor strict := by
  refine ⟨_, held.rest.accounted, ?_⟩
  intro other same
  cases outside with
  | false =>
      cases same
      exact taken
  | true => cases same

theorem held_over {tasks : RunningTasks} {id : TaskId} {scheduler : Scheduler}
    (held : tasks.Held strict outside id scheduler) (finished : ¬ scheduler.Unfinished id) :
    tasks.Rest strict none scheduler := by
  cases outside with
  | false => exact ⟨held.rest.accounted.drop finished, held.rest.active, held.rest.queued⟩
  | true => exact held.rest

theorem held_alike {tasks : RunningTasks} {id : TaskId} {scheduler other : Scheduler}
    (held : tasks.Held strict outside id scheduler) (same : scheduler.Alike other) :
    tasks.Held strict outside id other :=
  ⟨held.rest.alike same, held.alone⟩

theorem announced_alike (id : TaskId) (scheduler : Scheduler) :
    (scheduler.modifyTask id Interpreter.stepCounted).Alike (scheduler.announced id) :=
  .countWith _ _

theorem held_executes {tasks : RunningTasks} {id : TaskId} {task : Task} {start : Scheduler}
    (held : tasks.Held strict outside id start) (ready : start.Ready id task) :
    Watch.Executes (accountWatch strict) (accountWatch strict) (tasks.Held strict outside id)
      (tasks.Rest strict none) ((Held.inside tasks id start).Rest strict none) id task start := by
  have counted (task : Task) : (Interpreter.stepCounted task).isFinished = task.isFinished := rfl
  have announced : tasks.Held strict outside id (start.announced id) :=
    held_alike (held.modifyTask counted) (announced_alike id start)
  have lives : (start.announced id).Unfinished id := by
    rw [(announced_alike id start).unfinished id]
    exact (Scheduler.unfinished_modifyTask counted).mpr ⟨task, ready.found, ready.unfinished⟩
  constructor
  case grants => rfl
  case excuses => exact fun excuses => excuses
  case announced => trivial
  case announces =>
    intro session reading _ outcome same event _
    rw [← same] at announced
    exact .inl (held_moment announced (.inr (.inr ⟨_, _, event⟩)))
  case enters => exact announced.enter lives
  case lives =>
    intro left runs _
    apply runs.accounted.running
    rw [runs.active]
    exact List.mem_cons_self
  case settles =>
    intro left runs _ status change ending
    have left := announced.leave lives runs
    rcases ending.isFinished with ⟨_, finishes⟩ | ⟨_, keeps⟩
    · exact ⟨left.finish finishes, trivial⟩
    · exact ⟨left.modifyTask keeps, trivial⟩
  case fails => exact fun _ _ => ⟨trivial, fun _ => .inl trivial⟩
  case halts => exact fun _ _ => trivial
  case seesSettled =>
    intro moment after outcome _ _ seen faultless status change _ _
    rcases seen with here | ⟨cause, left, fault, _⟩
    · exact .inl here
    · subst outcome
      exact absurd rfl (faultless cause)
  case seesFailed =>
    intro moment left after signal seen _ budget
    rcases seen with here | ⟨cause, faulted, fault, unlimited⟩
    · exact .inl here
    · cases fault
      exact .inr ⟨cause, after, rfl, budget.trans unlimited⟩
  case seesHalted =>
    intro moment left seen
    rcases seen with here | ⟨cause, faulted, impossible, _⟩
    · exact .inl here
    · cases impossible

theorem accounts_steps (strict : Prop) (outside : Bool) :
    Watch.Steps (fun _ : RunningTasks => accountWatch strict) (Rest strict none)
      (Held strict outside) where
  alike tasks id _ _ same held := ⟨held_alike held same, trivial⟩
  waiting tasks id awaited session held _ event :=
    held_moment held (.inr (.inl ⟨awaited, event⟩))
  ended tasks id session held finished := (held_over held finished).accounted.session
  start tasks id scheduler held _ := by
    refine ⟨held.modifyTask fun task => ?_, trivial⟩
    unfold Task.start
    split <;> rfl
  complete tasks id scheduler held _ payload := ⟨held.finish fun _ => rfl, trivial⟩
  executes tasks id task scheduler held ready := ⟨_, held_executes held ready⟩

theorem accounts_upholds (strict : Prop) :
    Watch.Upholds (fun _ : RunningTasks => accountWatch strict) (Rest strict none)
      (Held strict false) where
  steps := accounts_steps strict false
  moment tasks session rests := rests.accounted.session
  alike tasks _ _ same rests := ⟨rests.alike same, trivial⟩
  registers tasks task fresh scheduler rests := by
    refine ⟨⟨rests.accounted.register fresh, rests.active, ?_⟩, trivial⟩
    intro id runs
    rw [← rests.queued id runs]
    have known : id.index < scheduler.tasks.length := by
      refine rests.accounted.registered id (.inr (.inl ?_))
      rw [rests.active]
      exact runs
    -- The identity of the new task is past the end of the table, so no running task has it.
    have next : scheduler.ids.next.index = scheduler.tasks.length := rests.accounted.ids
    constructor
    · intro queued
      rcases List.mem_append.mp queued with queued | last
      · exact queued
      · rw [List.mem_singleton.mp last] at known
        exact absurd known (by rw [next]; exact Nat.lt_irrefl _)
    · intro queued
      exact List.mem_append_left _ queued
  pop tasks scheduler id remaining rests front := by
    obtain ⟨rest, ids, rfl⟩ := Scheduler.dequeue?_eq_some front
    refine ⟨trivial, fun session same event => ?_⟩
    -- A task that is running already is not in the hands of the turn that has found it in the
    -- queue.
    by_cases runs : id ∈ scheduler.active
    · have accounted := rests.accounted.pop ids (.inr ⟨rfl, runs⟩)
      rw [← same] at accounted
      exact accounted.session
    · have accounted := rests.accounted.pop ids (.inl ⟨rfl, runs⟩)
      rw [← same] at accounted
      refine ⟨some id, accounted, ?_⟩
      intro other taken
      cases taken
      exact .inl event
  take tasks scheduler id remaining rests front idle := by
    obtain ⟨rest, ids, rfl⟩ := Scheduler.dequeue?_eq_some front
    have apart : id ∉ scheduler.active := of_decide_eq_false idle
    refine ⟨⟨rests.accounted.pop ids (.inl ⟨rfl, apart⟩), rests.active, ?_⟩, fun impossible => nomatch impossible⟩
    intro other runs
    have different : other ≠ id := by
      rintro rfl
      rw [rests.active] at apart
      exact apart runs
    have queued := rests.queued other runs
    rw [ids, List.mem_cons] at queued
    rw [← queued]
    constructor
    · exact .inr
    · intro place
      exact place.resolve_left different
  skip tasks scheduler id remaining rests front _ := by
    obtain ⟨rest, ids, rfl⟩ := Scheduler.dequeue?_eq_some front
    refine ⟨⟨rests.accounted.rotate ids, rests.active, ?_⟩, trivial⟩
    intro other runs
    exact (Scheduler.Accounted.mem_rotate ids other).trans (rests.queued other runs)
  push tasks id scheduler held lives := by
    refine ⟨⟨held.rest.accounted.push lives, held.rest.active, ?_⟩, trivial⟩
    intro other runs
    rw [← held.rest.queued other runs]
    constructor
    · intro queued
      rcases List.mem_append.mp queued with queued | last
      · exact queued
      · rw [List.mem_singleton.mp last] at runs
        have idle := held.idle
        rw [held.rest.active] at idle
        exact absurd runs idle
    · intro queued
      exact List.mem_append_left _ queued
  drop tasks id scheduler held finished := held_over held finished

end RunningTasks

/-! ### Sequences of requests -/

/-- One of the operations ends in a fault. -/
def Interpreter.Faults (interpreter : Interpreter) : List Operation → Session → Prop
  | [], _ => False
  | operation :: rest, session =>
      match interpreter.request operation session with
      | .done _ after => interpreter.Faults rest after
      | .raised (.fault _) _ => True
      | .raised _ after => interpreter.Faults rest after
      | .halted _ => False

namespace RunningTasks

def nothing : RunningTasks := ⟨[], []⟩

theorem step_keeps {strict : Prop} (loose : ¬ strict) (depth : Nat) (id : TaskId) :
    (accountWatch strict).Keeps (nothing.Rest strict none) ((interpreter depth).step id)
      ((interpreter depth).step id) := by
  have itself := interpreter_deepens (Nat.le_refl depth)
  have exec (tasks : RunningTasks) (path : Path) (statement : Stmt) :=
    (accounts_upholds strict).keeps (itself.exec path statement) tasks
  refine ((accounts_steps strict true).step exec nothing id).weaken ?_ ?_
  · intro scheduler rests
    exact ⟨rests, fun _ => ⟨loose, rfl⟩⟩
  · intro result scheduler stepped
    match result with
    | .ok .done => exact .inr stepped.1.rest
    | .ok .pending => exact .inr stepped.1.rest
    | .ok .blocked => exact .inr stepped.1.rest
    | .error signal => exact Watch.Kept.error stepped

theorem request_keeps {strict : Prop} (depth : Nat) (operation : Operation)
    (allowed : strict → ∀ id, operation ≠ .step id) :
    (accountWatch strict).Keeps (nothing.Rest strict none) ((interpreter depth).request operation)
      ((interpreter depth).request operation) := by
  refine (accounts_upholds strict).request (Nat.le_refl depth) operation nothing ?_
  intro id same
  exact step_keeps (fun holds => allowed holds id same) depth id

/-- Tasks are accounted for at every moment of operations that do not fault, and at their end no
task is running. -/
theorem requestAll_accounts {strict : Prop} (depth : Nat) (operations : List Operation)
    (allowed : strict → ∀ id, .step id ∉ operations) (session : Session)
    (rests : nothing.Rest strict none session.scheduler)
    (faultless : ¬ (interpreter depth).Faults operations (session.granted none)) :
    ((interpreter depth).requestAll operations session).session.AccountedFor strict ∧
      ∀ after, (interpreter depth).requestAll operations session = .done () after →
        nothing.Rest strict none after.scheduler := by
  -- On the operations. Any signal but a fault leaves the tasks accounted for, so that the next one
  -- may follow.
  induction operations generalizing session with
  | nil =>
      refine ⟨rests.accounted.session, fun after ended => ?_⟩
      cases ended
      exact rests
  | cons operation rest ih =>
      have here (holds : strict) (id : TaskId) : operation ≠ .step id := by
        rintro rfl
        exact allowed holds id List.mem_cons_self
      have later (holds : strict) (id : TaskId) : .step id ∉ rest := by
        intro member
        exact allowed holds id (List.mem_cons_of_mem operation member)
      have keeps := request_keeps depth operation here
      have longer := keeps.goesOn.outcome none session
      unfold Interpreter.Faults at faultless
      unfold Interpreter.requestAll
      rw [Act.attempt_bind]
      cases run : (interpreter depth).request operation session with
      | done value after =>
          rw [run] at longer
          rw [longer.ofDone] at faultless
          exact ih later after (keeps.done rests run).ok faultless
      | raised signal after =>
          have kept := keeps.raised rests run
          rw [run] at longer
          rw [longer.ofRaised] at faultless
          cases signal with
          | fault cause => exact absurd trivial faultless
          | suspend fromLoop =>
              exact ih later after (kept.resolve_left fun fault => nomatch fault.2) faultless
          | returning value =>
              exact ih later after (kept.resolve_left fun fault => nomatch fault.2) faultless
          | breakLoop => exact ih later after (kept.resolve_left fun fault => nomatch fault.2) faultless
          | continueLoop =>
              exact ih later after (kept.resolve_left fun fault => nomatch fault.2) faultless
      | halted moment =>
          refine ⟨?_, fun after impossible => nomatch impossible⟩
          rcases keeps.sees session moment rests run with accounted | ⟨cause, left, fault, _⟩
          · exact accounted
          · rw [show (accountWatch strict).extra = none from rfl] at fault
            rw [fault] at faultless
            exact absurd trivial faultless

end RunningTasks

/-- The queue and the stack of running tasks hold the unfinished tasks, each of them once, apart
from the task that has just been taken out. -/
structure Session.Balanced (popped : Option TaskId) (session : Session) : Prop where
  queue : session.scheduler.queue.ids.Nodup
  active : session.scheduler.active.Nodup
  disjoint : ∀ id, id ∈ session.scheduler.queue.ids → id ∉ session.scheduler.active
  taken : ∀ id, popped = some id →
    session.JustTaken id ∧ id ∉ session.scheduler.queue.ids ∧ id ∉ session.scheduler.active
  union : ∀ id, popped ≠ some id →
    (session.scheduler.Unfinished id ↔
      id ∈ session.scheduler.queue.ids ∨ id ∈ session.scheduler.active)

/-- As `Balanced`, but the queue may also hold finished tasks and the outermost running one. -/
structure Session.Covered (popped : Option TaskId) (session : Session) : Prop where
  queue : session.scheduler.queue.ids.Nodup
  active : session.scheduler.active.Nodup
  taken : ∀ id, popped = some id →
    session.JustTaken id ∧ id ∉ session.scheduler.queue.ids ∧ id ∉ session.scheduler.active
  present : ∀ id, popped ≠ some id → session.scheduler.Unfinished id →
    id ∉ session.scheduler.active → id ∈ session.scheduler.queue.ids
  surplus : ∀ id, id ∈ session.scheduler.queue.ids →
    session.scheduler.Unfinished id ∧ id ∉ session.scheduler.active ∨
      session.scheduler.isFinished id = true ∨ session.scheduler.active.getLast? = some id

theorem Session.AccountedFor.balanced {session : Session} (accounted : session.AccountedFor True) :
    ∃ popped, session.Balanced popped := by
  obtain ⟨popped, accounted, taken⟩ := accounted
  refine ⟨popped, accounted.queue, accounted.active, ?_, ?_, ?_⟩
  · intro id queued
    exact (accounted.exact trivial id queued).2
  · intro id same
    exact ⟨taken id same, accounted.apart id same⟩
  · intro id different
    constructor
    · intro unfinished
      rcases accounted.covered id unfinished with queued | runs | same
      · exact .inl queued
      · exact .inr runs
      · exact absurd same different
    · intro place
      rcases place with queued | runs
      · exact (accounted.exact trivial id queued).1
      · exact accounted.running id runs

theorem Session.AccountedFor.covered {strict : Prop} {session : Session}
    (accounted : session.AccountedFor strict) : ∃ popped, session.Covered popped := by
  obtain ⟨popped, accounted, taken⟩ := accounted
  refine ⟨popped, accounted.queue, accounted.active, ?_, ?_, ?_⟩
  · intro id same
    exact ⟨taken id same, accounted.apart id same⟩
  · intro id different unfinished idle
    rcases accounted.covered id unfinished with queued | runs | same
    · exact queued
    · exact absurd runs idle
    · exact absurd same different
  · intro id queued
    have known := accounted.registered id (.inl queued)
    by_cases runs : id ∈ session.scheduler.active
    · exact .inr (.inr (accounted.outermost id queued runs))
    · have found : session.scheduler.task? id = some (session.scheduler.tasks[id.index]) :=
        List.getElem?_eq_getElem known
      cases finished : (session.scheduler.tasks[id.index]).isFinished with
      | false => exact .inl ⟨⟨_, found, finished⟩, runs⟩
      | true =>
          refine .inr (.inl ?_)
          unfold Scheduler.isFinished
          rw [found]
          exact finished

theorem Scheduler.accounted_fresh (strict : Prop) (settings : SchedulerSettings) :
    Scheduler.Accounted strict none { settings } := by
  have unregistered (id : TaskId) : ¬ Scheduler.Unfinished id { settings } := by
    rintro ⟨task, found, _⟩
    cases found
  constructor
  · rfl
  · exact List.nodup_nil
  · exact List.nodup_nil
  · intro id impossible
    cases impossible
  · intro id place
    rcases place with impossible | impossible | impossible <;> cases impossible
  · intro id unfinished
    exact absurd unfinished (unregistered id)
  · intro id impossible
    cases impossible
  · intro id impossible
    cases impossible
  · intro _ id impossible
    cases impossible

/-- From a fresh scheduler, tasks are neither lost nor duplicated nor entered twice, at any
moment of any operations that do not fault. If no task is stepped past the queue, then the queue
holds exactly the unfinished tasks whenever the operations have come to their end. -/
theorem tasks_neither_lost_nor_duplicated (depth : Nat) (session : Session)
    (settings : SchedulerSettings) (operations : List Operation)
    (faultless : ¬ (interpreter depth).Faults operations
      { session with scheduler := { settings }, budget := none }) :
    (∃ popped, ((interpreter depth).requestAll operations
      { session with scheduler := { settings } }).session.Covered popped) ∧
    ((∀ id, .step id ∉ operations) →
      (∃ popped, ((interpreter depth).requestAll operations
        { session with scheduler := { settings } }).session.Balanced popped) ∧
      ∀ after, (interpreter depth).requestAll operations
          { session with scheduler := { settings } } = .done () after →
        after.scheduler.active = [] ∧
          ∀ id, id ∈ after.scheduler.queue.ids ↔ after.scheduler.Unfinished id) := by
  have fresh (strict : Prop) :
      RunningTasks.nothing.Rest strict none
        ({ session with scheduler := { settings } } : Session).scheduler := by
    refine ⟨Scheduler.accounted_fresh strict settings, rfl, ?_⟩
    intro id impossible
    cases impossible
  constructor
  · have loose := RunningTasks.requestAll_accounts depth operations
      (fun impossible : False => impossible.elim) _ (fresh False) faultless
    exact loose.1.covered
  · intro unstepped
    have strict := RunningTasks.requestAll_accounts depth operations (fun _ : True => unstepped) _
      (fresh True) faultless
    refine ⟨strict.1.balanced, fun after ended => ?_⟩
    have rests := strict.2 after ended
    have idle : after.scheduler.active = [] := rests.active
    refine ⟨idle, fun id => ⟨fun queued => (rests.accounted.exact trivial id queued).1, ?_⟩⟩
    intro unfinished
    rcases rests.accounted.covered id unfinished with queued | runs | impossible
    · exact queued
    · rw [idle] at runs
      cases runs
    · cases impossible

/-- Of two tasks, the first one is finished after a turn and the second one is queued. -/
theorem tasks_neither_lost_nor_duplicated_pair :
    ¬ (interpreter 3).Faults
      [.spawn ⟨"first", [], [], true, none⟩ [], .spawn ⟨"second", [], [.yield], true, none⟩ [],
        .cycle] {} ∧
    ∃ popped, ((interpreter 3).requestAll
      [.spawn ⟨"first", [], [], true, none⟩ [], .spawn ⟨"second", [], [.yield], true, none⟩ [],
        .cycle] {}).session.Balanced popped := by
  have faultless : ¬ (interpreter 3).Faults
      [.spawn ⟨"first", [], [], true, none⟩ [], .spawn ⟨"second", [], [.yield], true, none⟩ [],
        .cycle] {} := by
    intro impossible
    exact impossible
  refine ⟨faultless, ((tasks_neither_lost_nor_duplicated 3 {} {} _ faultless).2 ?_).1⟩
  intro id
  simp

end CooperativeTasks
