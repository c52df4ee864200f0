import CooperativeTasks.Proofs.Mirroring
import CooperativeTasks.Proofs.QueueAccounting

set_option autoImplicit false

/-! Code without timers, run at two different times.

The time only comes into a program through its timers: a task sleeps or has a deadline because an
expression says so. Two sessions that differ in their clocks, and in how long the scheduler pauses, are
twins as long as no task has been put to sleep or given a deadline. For them to stay so, no task that a
turn takes out of the queue may be found waiting: one that waits is on the call stack, and those on the
call stack are not in the queue. -/

namespace CooperativeTasks

variable {α β : Type}

/-! ### Programs without timers -/

mutual

/-- The expression sleeps or sets a deadline, if it is evaluated to its end. -/
def Expr.usesTimers : Expr → Bool
  | .lit _ => false
  | .var _ => false
  | .field base _ => base.usesTimers
  | .binary _ left right => left.usesTimers || right.usesTimers
  | .unary _ operand => operand.usesTimers
  | .structLit _ fields => anyFieldUsesTimers fields
  | .call _ args => anyUsesTimers args
  | .methodCall _ _ args => anyUsesTimers args
  | .await future => future.usesTimers
  | .sleep _ => true
  | .timeout _ _ => true

def anyUsesTimers : List Expr → Bool
  | [] => false
  | expr :: rest => expr.usesTimers || anyUsesTimers rest

def anyFieldUsesTimers : List (String × Expr) → Bool
  | [] => false
  | (_, expr) :: rest => expr.usesTimers || anyFieldUsesTimers rest

end

mutual

def Stmt.usesTimers : Stmt → Bool
  | .letVar _ value => value.usesTimers
  | .assign _ value => value.usesTimers
  | .expression value => value.usesTimers
  | .print value => value.usesTimers
  | .returning value => value.any Expr.usesTimers
  | .yield => false
  | .ifThen condition thenBranch elseBranch =>
      condition.usesTimers || anyStatementUsesTimers thenBranch || anyStatementUsesTimers elseBranch
  | .whileLoop condition body => condition.usesTimers || anyStatementUsesTimers body
  | .forLoop init condition update body =>
      partUsesTimers init || condition.any Expr.usesTimers || partUsesTimers update
        || anyStatementUsesTimers body
  | .block body => anyStatementUsesTimers body
  | .breakLoop => false
  | .continueLoop => false

def anyStatementUsesTimers : List Stmt → Bool
  | [] => false
  | statement :: rest => statement.usesTimers || anyStatementUsesTimers rest

def partUsesTimers : Option Stmt → Bool
  | none => false
  | some statement => statement.usesTimers

end

def FunctionDecl.usesTimers (function : FunctionDecl) : Bool := anyStatementUsesTimers function.body

/-- Some function body or main statement has a timer in it. -/
def Program.usesTimers (program : Program) : Bool :=
  program.functions.any FunctionDecl.usesTimers || anyStatementUsesTimers program.main

theorem forall_eq_false_of_any {test : α → Bool} {any : List α → Bool}
    (next : ∀ first rest, any (first :: rest) = (test first || any rest)) {items : List α}
    (nowhere : any items = false) : ∀ item ∈ items, test item = false := by
  induction items with
  | nil => exact fun _ impossible => absurd impossible List.not_mem_nil
  | cons first rest ih =>
      rw [next] at nowhere
      obtain ⟨here, later⟩ := Bool.or_eq_false_iff.mp nowhere
      intro item member
      rcases List.mem_cons.mp member with rfl | member
      · exact here
      · exact ih later item member

theorem anyUsesTimers_eq_false {exprs : List Expr} (timeless : anyUsesTimers exprs = false) :
    ∀ expr ∈ exprs, expr.usesTimers = false :=
  forall_eq_false_of_any (fun _ _ => rfl) timeless

theorem anyFieldUsesTimers_eq_false {fields : List (String × Expr)}
    (timeless : anyFieldUsesTimers fields = false) :
    ∀ field ∈ fields, field.2.usesTimers = false :=
  forall_eq_false_of_any (fun _ _ => rfl) timeless

theorem anyStatementUsesTimers_eq_false {statements : List Stmt}
    (timeless : anyStatementUsesTimers statements = false) :
    ∀ statement ∈ statements, statement.usesTimers = false :=
  forall_eq_false_of_any (fun _ _ => rfl) timeless

theorem partUsesTimers_eq_false {part : Option Stmt} (timeless : partUsesTimers part = false) :
    ∀ statement ∈ part.toList, statement.usesTimers = false := by
  intro statement member
  cases part with
  | none => cases member
  | some only =>
      rw [List.mem_singleton.mp member]
      exact timeless

/-! ### Sessions at other times -/

def Scheduler.paced (settings : SchedulerSettings) (scheduler : Scheduler) : Scheduler :=
  { scheduler with settings }

/-- The session at another time, in which other things have been recorded. -/
def Session.elsewhere (settings : SchedulerSettings) (clock : Clock) (journal : List Event)
    (session : Session) : Session :=
  { session with scheduler := session.scheduler.paced settings, clock, journal }

namespace Scheduler

variable (settings : SchedulerSettings) (scheduler : Scheduler)

theorem task?_paced (id : TaskId) : (scheduler.paced settings).task? id = scheduler.task? id :=
  rfl

theorem isFinished_paced (id : TaskId) :
    (scheduler.paced settings).isFinished id = scheduler.isFinished id :=
  rfl

theorem futureValue?_paced (id : TaskId) :
    (scheduler.paced settings).futureValue? id = scheduler.futureValue? id :=
  rfl

theorem hasQueued_paced : (scheduler.paced settings).hasQueued = scheduler.hasQueued :=
  rfl

end Scheduler

/-! ### Turns in progress -/

/-- The turns that are in progress at some point of a run. -/
structure Nesting where
  /-- The tasks whose steps are on the call stack, innermost first. -/
  active : List TaskId
  /-- The tasks that turns have taken out of the queue. -/
  taken : List TaskId
  /-- The tasks that wait for another one. -/
  waiting : List TaskId
  stacked : ∀ id ∈ active, id ∈ taken
  marked : ∀ id ∈ waiting, id ∈ active

namespace Nesting

def outermost : Nesting where
  active := []
  taken := []
  waiting := []
  stacked := fun _ impossible => impossible
  marked := fun _ impossible => impossible

variable (nesting : Nesting)

def taking (id : TaskId) : Nesting :=
  { nesting with
    taken := id :: nesting.taken
    stacked := fun other runs => List.mem_cons_of_mem id (nesting.stacked other runs) }

def stepping (id : TaskId) : Nesting where
  active := id :: nesting.active
  taken := id :: nesting.taken
  waiting := nesting.waiting
  stacked other runs := by
    rcases List.mem_cons.mp runs with rfl | runs
    · exact List.mem_cons_self
    · exact List.mem_cons_of_mem id (nesting.stacked other runs)
  marked other waits := List.mem_cons_of_mem id (nesting.marked other waits)

def awaiting (waiter : TaskId) (runs : waiter ∈ nesting.active) : Nesting :=
  { nesting with
    waiting := waiter :: nesting.waiting
    marked := fun other waits => by
      rcases List.mem_cons.mp waits with rfl | waits
      · exact runs
      · exact nesting.marked other waits }

end Nesting

/-- Nothing about the task has to do with the time, now or later. -/
structure Task.Unhurried (task : Task) : Prop where
  awake : task.wakeAt = none
  endless : task.deadline = none
  body : ∀ function, task.body = some function → function.usesTimers = false

/-- The change leaves alone all that decides when a task may take a step. -/
structure Task.KeepsTimes (change : Task → Task) : Prop where
  wakeAt : ∀ task, (change task).wakeAt = task.wakeAt
  deadline : ∀ task, (change task).deadline = task.deadline
  body : ∀ task, (change task).body = task.body
  waitingFor : ∀ task, (change task).waitingFor = task.waitingFor

theorem Task.KeepsTimes.unhurried {change : Task → Task} (keeps : KeepsTimes change) {task : Task}
    (unhurried : task.Unhurried) : (change task).Unhurried where
  awake := (keeps.wakeAt task).trans unhurried.awake
  endless := (keeps.deadline task).trans unhurried.endless
  body := keeps.body task ▸ unhurried.body

theorem Task.keepsTimes_start : KeepsTimes Task.start := by
  constructor <;> intro task <;> unfold Task.start <;> split <;> rfl

/-- No task has been given a time, none can be, and none has been found waiting. -/
structure Session.Unhurried (nesting : Nesting) (session : Session) : Prop where
  unlimited : session.budget = none
  functions : ∀ name function, Bindings.get? name session.executor.functions = some function →
    function.usesTimers = false
  current : ∀ id, session.executor.currentTask = some id → id ∈ nesting.active
  active : session.scheduler.active = nesting.active
  /-- A task that waits does so inside one of the steps in progress. -/
  tasks : ∀ id task, session.scheduler.task? id = some task →
    task.Unhurried ∧ (task.waitingFor ≠ none → id ∈ nesting.waiting)
  next : session.scheduler.ids.next.index = session.scheduler.tasks.length
  queue : session.scheduler.queue.ids.Nodup
  /-- What a turn in progress has taken out of the queue has not been put back. -/
  apart : ∀ id ∈ nesting.taken, id ∉ session.scheduler.queue.ids
  known : ∀ id, id ∈ session.scheduler.queue.ids ∨ id ∈ nesting.taken →
    id.index < session.scheduler.tasks.length
  blocked : session.scheduler.statistics.stepsBlocked = 0
  pauses : session.scheduler.statistics.idleBackoffs = 0

/-- The same moment of two runs that take place at different times. -/
structure Session.Timeless (nesting : Nesting) (first second : Session) : Prop where
  unhurried : first.Unhurried nesting
  same : ∃ settings clock journal, second = first.elsewhere settings clock journal

namespace Session.Timeless

variable {nesting : Nesting} {first second : Session} (timeless : first.Timeless nesting second)

include timeless

theorem executor : second.executor = first.executor := by
  obtain ⟨_, settings, clock, journal, rfl⟩ := timeless
  rfl

theorem scheduler : ∃ settings, second.scheduler = first.scheduler.paced settings := by
  obtain ⟨_, settings, clock, journal, rfl⟩ := timeless
  exact ⟨settings, rfl⟩

theorem unlimited : first.budget = none ∧ second.budget = none := by
  obtain ⟨unhurried, settings, clock, journal, rfl⟩ := timeless
  exact ⟨unhurried.unlimited, unhurried.unlimited⟩

end Session.Timeless

namespace Session.Unhurried

variable {nesting : Nesting} {session : Session} (unhurried : session.Unhurried nesting)

include unhurried

theorem onTask {nesting' : Nesting} {id : TaskId} {change : Task → Task}
    (keeps : ∀ task, task.Unhurried → (change task).Unhurried)
    (marks : ∀ task, (task.waitingFor ≠ none → id ∈ nesting.waiting) →
      (change task).waitingFor ≠ none → id ∈ nesting'.waiting)
    (active : nesting'.active = nesting.active) (taken : nesting'.taken = nesting.taken)
    (waiting : ∀ other, other ≠ id → other ∈ nesting.waiting → other ∈ nesting'.waiting) :
    (session.onTask id change).Unhurried nesting' := by
  have length : (session.onTask id change).scheduler.tasks.length = session.scheduler.tasks.length :=
    List.length_modify ..
  refine
    { unhurried with
      current := active ▸ unhurried.current
      active := unhurried.active.trans active.symm
      tasks := fun other task found => ?_
      next := unhurried.next.trans length.symm
      apart := taken ▸ unhurried.apart
      known := fun other place => ?_ }
  · change (session.scheduler.modifyTask id change).task? other = some task at found
    by_cases same : other = id
    · subst other
      rw [Scheduler.task?_modifyTask_self] at found
      obtain ⟨before, here, rfl⟩ := Option.map_eq_some_iff.mp found
      obtain ⟨calm, waits⟩ := unhurried.tasks id before here
      exact ⟨keeps before calm, marks before waits⟩
    · rw [Scheduler.task?_modifyTask_of_ne same] at found
      obtain ⟨calm, waits⟩ := unhurried.tasks other task found
      exact ⟨calm, fun marked => waiting other same (waits marked)⟩
  · rw [length]
    exact unhurried.known other (taken ▸ place)

theorem settingTask {change : Task → Task} (keeps : ∀ task, task.Unhurried → (change task).Unhurried)
    (unmarked : ∀ task, (change task).waitingFor = task.waitingFor ∨ (change task).waitingFor = none)
    (id : TaskId) : (session.onTask id change).Unhurried nesting := by
  refine unhurried.onTask keeps (fun task waits marked => ?_) rfl rfl fun _ _ waits => waits
  rcases unmarked task with same | unmarked
  · exact waits (same ▸ marked)
  · exact absurd unmarked marked

theorem keepingTimes {change : Task → Task} (keeps : Task.KeepsTimes change) (id : TaskId) :
    (session.onTask id change).Unhurried nesting :=
  unhurried.settingTask (fun _ => keeps.unhurried) (fun task => .inl (keeps.waitingFor task)) id

theorem registering {task : Task} (calm : task.Unhurried) (unmarked : task.waitingFor = none) :
    (session.registering task).Unhurried nesting := by
  have next := unhurried.next
  have length : (session.registering task).scheduler.tasks.length =
      session.scheduler.tasks.length + 1 := Scheduler.length_register task session.scheduler
  have queue : (session.registering task).scheduler.queue.ids =
      session.scheduler.queue.ids ++ [session.scheduler.ids.next] := rfl
  have older {id : TaskId} (known : id.index < session.scheduler.tasks.length) :
      id ≠ session.scheduler.ids.next := by
    rintro rfl
    omega
  refine
    { unhurried with
      tasks := fun id found present => ?_
      next := (congrArg (· + 1) next).trans length.symm
      queue := ?_
      apart := fun id taken => ?_
      known := fun id place => ?_ }
  · change (session.scheduler.register task).2.task? id = some found at present
    rw [Scheduler.task?_register] at present
    split at present
    · cases present
      exact ⟨⟨calm.awake, calm.endless, calm.body⟩, fun marked => absurd unmarked marked⟩
    · exact unhurried.tasks id found present
  · rw [queue]
    exact Scheduler.nodup_push unhurried.queue fun queued => older (unhurried.known _ (.inl queued)) rfl
  · rw [queue]
    intro queued
    rcases List.mem_append.mp queued with queued | last
    · exact unhurried.apart id taken queued
    · exact older (unhurried.known id (.inr taken)) (List.mem_singleton.mp last)
  · rw [length]
    rcases place with queued | taken
    · rw [queue] at queued
      rcases List.mem_append.mp queued with queued | last
      · have := unhurried.known id (.inl queued)
        omega
      · rw [List.mem_singleton.mp last]
        omega
    · have := unhurried.known id (.inr taken)
      omega

/-! ### Turns -/

theorem taking {id : TaskId} {rest : List TaskId} (front : session.scheduler.queue.ids = id :: rest) :
    id ∉ nesting.taken ∧
      (session.taking rest).Unhurried (nesting.taking id) := by
  have queue := unhurried.queue
  rw [front] at queue
  obtain ⟨unqueued, unique⟩ := List.nodup_cons.mp queue
  have behind {other : TaskId} (queued : other ∈ rest) : other ∈ session.scheduler.queue.ids := by
    rw [front]
    exact List.mem_cons_of_mem id queued
  refine ⟨fun taken => ?_, ?_⟩
  · refine unhurried.apart id taken ?_
    rw [front]
    exact List.mem_cons_self
  · refine
      { unhurried with
        queue := unique
        apart := fun other taken => ?_
        known := fun other place => ?_ }
    · rcases List.mem_cons.mp taken with rfl | taken
      · exact unqueued
      · exact fun queued => unhurried.apart other taken (behind queued)
    · rcases place with queued | taken
      · exact unhurried.known other (.inl (behind queued))
      · rcases List.mem_cons.mp taken with rfl | taken
        · refine unhurried.known other (.inl ?_)
          rw [front]
          exact List.mem_cons_self
        · exact unhurried.known other (.inr taken)

omit unhurried in
theorem dropping {id : TaskId} (unhurried : session.Unhurried (nesting.taking id)) :
    session.Unhurried nesting :=
  { unhurried with
    apart := fun other taken => unhurried.apart other (List.mem_cons_of_mem id taken)
    known := fun other place => unhurried.known other (place.imp_right (List.mem_cons_of_mem id)) }

omit unhurried in
theorem requeueing {id : TaskId} (unhurried : session.Unhurried (nesting.taking id))
    (fresh : id ∉ nesting.taken) :
    (Interpreter.requeueing id session).Unhurried nesting := by
  have queue : (session.scheduler.enqueue id).queue.ids = session.scheduler.queue.ids ++ [id] := rfl
  have unqueued := unhurried.apart id List.mem_cons_self
  have dropped := unhurried.dropping
  refine
    { dropped with
      queue := Scheduler.nodup_push unhurried.queue unqueued
      apart := fun other taken queued => ?_
      known := fun other place => ?_ }
  · change other ∈ (session.scheduler.enqueue id).queue.ids at queued
    rw [queue] at queued
    rcases List.mem_append.mp queued with queued | last
    · exact dropped.apart other taken queued
    · rw [List.mem_singleton.mp last] at taken
      exact fresh taken
  · change other ∈ (session.scheduler.enqueue id).queue.ids ∨ _ at place
    rw [queue] at place
    rcases place with queued | taken
    · rcases List.mem_append.mp queued with queued | last
      · exact dropped.known other (.inl queued)
      · rw [List.mem_singleton.mp last]
        exact unhurried.known id (.inr List.mem_cons_self)
    · exact dropped.known other (.inr taken)

omit unhurried in
theorem enteringTask {id : TaskId} (unhurried : session.Unhurried (nesting.taking id)) (task : Task) :
    (session.enteringTask id task).Unhurried (nesting.stepping id) :=
  { unhurried with
    active := congrArg (id :: ·) unhurried.active
    current := fun other here => by
      cases here
      exact List.mem_cons_self }

omit unhurried in
theorem leavingTask {id : TaskId} {before : Executor} (left : session.Unhurried (nesting.stepping id))
    (current : ∀ other, before.currentTask = some other → other ∈ nesting.active) (task : Task) :
    (session.leavingTask id task before).Unhurried (nesting.taking id) :=
  { left with
    active := congrArg List.tail left.active
    current := current }

end Session.Unhurried

/-! ### Pieces of code -/

open Session (Timeless)

section Pieces

variable {nesting : Nesting}

theorem Session.Timeless.changed {nesting' : Nesting} {first second : Session}
    (timeless : Timeless nesting first second) (change : Session → Session)
    (keeps : first.Unhurried nesting → (change first).Unhurried nesting')
    (blind : ∀ settings clock journal, change (first.elsewhere settings clock journal) =
      (change first).elsewhere settings clock journal) :
    Timeless nesting' (change first) (change second) := by
  obtain ⟨unhurried, settings, clock, journal, rfl⟩ := timeless
  exact ⟨keeps unhurried, settings, clock, journal, blind settings clock journal⟩

theorem Session.Timeless.dropping {id : TaskId} {first second : Session}
    (timeless : Timeless (nesting.taking id) first second) : Timeless nesting first second :=
  ⟨timeless.unhurried.dropping, timeless.same⟩

theorem timeless_update {change : Session → Session}
    (keeps : ∀ session, session.Unhurried nesting → (change session).Unhurried nesting)
    (blind : ∀ (session : Session) settings clock journal,
      change (session.elsewhere settings clock journal) =
        (change session).elsewhere settings clock journal) :
    Act.MirrorsAll (Timeless nesting) (Act.update change) (Act.update change) :=
  .update fun first _ timeless => timeless.changed change (keeps first) (blind first)

theorem timeless_read {view : Session → α}
    (blind : ∀ (session : Session) settings clock journal,
      view (session.elsewhere settings clock journal) = view session) :
    Act.MirrorsAll (Timeless nesting) (Act.read view) (Act.read view) := by
  refine .read fun first second timeless => ⟨?_, trivial⟩
  obtain ⟨_, settings, clock, journal, rfl⟩ := timeless
  exact blind first settings clock journal

theorem timeless_executor {good : α → Prop} {next next' : Executor → Act α}
    (tail : ∀ session : Session, session.Unhurried nesting →
      Act.Mirrors (Timeless nesting) good (next session.executor) (next' session.executor)) :
    Act.Mirrors (Timeless nesting) good (Act.executor >>= next) (Act.executor >>= next') := by
  refine .executor fun first second timeless => ?_
  rw [timeless.executor]
  exact tail first timeless.unhurried

theorem timeless_scheduler {good : α → Prop} {next next' : Scheduler → Act α}
    (tail : ∀ (session : Session) settings, session.Unhurried nesting →
      Act.Mirrors (Timeless nesting) good (next session.scheduler)
        (next' (session.scheduler.paced settings))) :
    Act.Mirrors (Timeless nesting) good (Act.scheduler >>= next) (Act.scheduler >>= next') := by
  refine .scheduler fun first second timeless => ?_
  obtain ⟨settings, paced⟩ := timeless.scheduler
  rw [paced]
  exact tail first settings timeless.unhurried

theorem timeless_readClock {good : α → Prop} {next next' : Nat → Act α}
    (tail : ∀ now now', Act.Mirrors (Timeless nesting) good (next now) (next' now')) :
    Act.Mirrors (Timeless nesting) good (Act.readClock >>= next) (Act.readClock >>= next') := by
  intro first second timeless
  rw [Act.readClock_bind, Act.readClock_bind]
  refine tail _ _ _ _ ⟨{ timeless.unhurried with }, ?_⟩
  obtain ⟨settings, clock, journal, rfl⟩ := timeless.same
  exact ⟨settings, _, journal, rfl⟩

theorem Session.Timeless.recorded {first second : Session} (timeless : Timeless nesting first second)
    (event event' : Event) : Timeless nesting (first.recorded event) (second.recorded event') := by
  refine ⟨{ timeless.unhurried with }, ?_⟩
  obtain ⟨settings, clock, journal, rfl⟩ := timeless.same
  exact ⟨settings, clock, _, rfl⟩

theorem timeless_note (event event' : Event) :
    Act.MirrorsAll (Timeless nesting) (Act.note event) (Act.note event') := by
  refine .note (fun _ _ timeless => timeless.unlimited) (fun _ _ timeless event event' => ?_) _ _
  exact timeless.recorded event event'

theorem timeless_count {change : Statistics → Statistics}
    (blocked : ∀ statistics, (change statistics).stepsBlocked = statistics.stepsBlocked)
    (pauses : ∀ statistics, (change statistics).idleBackoffs = statistics.idleBackoffs) :
    Act.MirrorsAll (Timeless nesting) (Act.count change) (Act.count change) := by
  refine timeless_update (fun session unhurried => ?_) fun _ _ _ _ => rfl
  exact
    { unhurried with
      blocked := (blocked _).trans unhurried.blocked
      pauses := (pauses _).trans unhurried.pauses }

theorem timeless_modifyTask {change : Task → Task}
    (keeps : ∀ task, task.Unhurried → (change task).Unhurried)
    (unmarked : ∀ task, (change task).waitingFor = task.waitingFor ∨ (change task).waitingFor = none)
    (id : TaskId) :
    Act.MirrorsAll (Timeless nesting) (Act.modifyTask id change) (Act.modifyTask id change) :=
  timeless_update (fun _ unhurried => unhurried.settingTask keeps unmarked id) fun _ _ _ _ => rfl

theorem timeless_keepTimes {change : Task → Task} (keeps : Task.KeepsTimes change) (id : TaskId) :
    Act.MirrorsAll (Timeless nesting) (Act.modifyTask id change) (Act.modifyTask id change) :=
  timeless_update (fun _ unhurried => unhurried.keepingTimes keeps id) fun _ _ _ _ => rfl

theorem timeless_completeTask (id : TaskId) (payload : Value) :
    Act.MirrorsAll (Timeless nesting) (Act.completeTask id payload) (Act.completeTask id payload) := by
  apply timeless_modifyTask
  · exact fun task unhurried => ⟨rfl, unhurried.endless, unhurried.body⟩
  · exact fun _ => .inr rfl

theorem timeless_register {task : Task} (calm : task.Unhurried) (unmarked : task.waitingFor = none) :
    Act.MirrorsAll (Timeless nesting) (Act.register task) (Act.register task) := by
  rw [Act.register_eq]
  refine .bind (timeless_read fun _ _ _ _ => rfl) fun id _ => ?_
  refine .bind (timeless_update ?_ fun _ _ _ _ => rfl) fun _ _ => ?_
  · exact fun _ unhurried => unhurried.registering calm unmarked
  · apply timeless_scheduler
    intro session settings _
    exact .bind (timeless_note _ _) fun _ _ => .pure trivial

theorem timeless_futureValue (id : TaskId) :
    Act.MirrorsAll (Timeless nesting) (Act.futureValue id) (Act.futureValue id) := by
  apply timeless_scheduler
  intro session settings _
  rw [Scheduler.futureValue?_paced]
  split
  · exact .pure trivial
  · exact .fail _

/-! ### Publishing -/

theorem Session.Unhurried.modifySite {session : Session} (unhurried : session.Unhurried nesting)
    (site : BindingSite) (change : Scope → Scope) :
    (session.modifySite site change).Unhurried nesting := by
  unfold Session.modifySite
  split
  · exact { unhurried with }
  · split
    · apply unhurried.keepingTimes
      exact ⟨fun _ => rfl, fun _ => rfl, fun _ => rfl, fun _ => rfl⟩
    · exact unhurried

theorem timeless_publish (site : BindingSite) (change : Scope → Scope) (test : Option Scope → Bool)
    (event : Event) :
    Act.MirrorsAll (Timeless nesting)
      (do
        if test (← Act.read (Session.siteScope? site)) then
          Act.update (Session.modifySite site change)
        else
          Act.note event)
      (do
        if test (← Act.read (Session.siteScope? site)) then
          Act.update (Session.modifySite site change)
        else
          Act.note event) := by
  refine .bind (timeless_read fun _ _ _ _ => rfl) fun target _ => ?_
  split
  · refine timeless_update (fun _ unhurried => unhurried.modifySite site change) ?_
    intro session settings clock journal
    have same : (session.elsewhere settings clock journal).savedSiteScope? site =
        session.savedSiteScope? site := rfl
    have scopes : (session.elsewhere settings clock journal).executor = session.executor := rfl
    unfold Session.modifySite
    rw [same, scopes]
    cases session.executor.scopes.modifyFrame? site.frame change with
    | some scopes => rfl
    | none => cases site.owner <;> cases session.savedSiteScope? site <;> rfl
  · exact timeless_note event event

theorem timeless_finalize (id : TaskId) :
    Act.MirrorsAll (Timeless nesting) (Act.finalize id) (Act.finalize id) := by
  apply timeless_scheduler
  intro session settings _
  rw [Scheduler.task?_paced]
  cases session.scheduler.task? id with
  | none => exact .pure trivial
  | some task =>
      dsimp only
      split
      · have published (receiver : Option Receiver) :
            Act.MirrorsAll (Timeless nesting)
              (Act.modifyTask id fun task => { task with isPublished := true, receiver })
              (Act.modifyTask id fun task => { task with isPublished := true, receiver }) := by
          apply timeless_keepTimes
          exact ⟨fun _ => rfl, fun _ => rfl, fun _ => rfl, fun _ => rfl⟩
        have future (site : BindingSite) (value : Value) :
            Act.MirrorsAll (Timeless nesting) (Act.publishFuture id site value)
              (Act.publishFuture id site value) :=
          timeless_publish site (Scope.assignExisting site.name value)
            (fun target => target.any (Scope.contains site.name)) _
        have receives (site : BindingSite) (value : Value) (members : List (String × Value)) :
            Act.MirrorsAll (Timeless nesting) (Act.publishReceiver id site value members)
              (Act.publishReceiver id site value members) :=
          timeless_publish site (Scope.writeBack site.name value members) Option.isSome _
        refine .bind (published _) fun _ _ => ?_
        refine .bind (timeless_count (fun _ => rfl) fun _ => rfl) fun _ _ => ?_
        split
        · split
          · exact .bind (receives _ _ _) fun _ _ => timeless_note _ _
          · exact timeless_note _ _
        · refine .bind (future _ _) fun _ _ => ?_
          split
          · exact .bind (receives _ _ _) fun _ _ => timeless_note _ _
          · exact timeless_note _ _
      · exact .pure trivial

end Pieces

end CooperativeTasks
