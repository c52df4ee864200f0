import CooperativeTasks.Proofs.Bracketing
import CooperativeTasks.Proofs.Suspension

set_option autoImplicit false

/-! Driving a task that is the only one.

Between two of its turns the task is parked: nothing runs, it alone is queued, and entering it
gives back the executor that its last statement left. A turn of a parked task is the execution of
one statement from there. -/

namespace CooperativeTasks

/-! ### Putting a scope aside and back -/

namespace ScopeStack

/-- What is innermost, after a scope was pushed and as long as no other is, can be put aside and
pushed again. -/
theorem reenter {scopes left : ScopeStack} {scope : Scope}
    (same : left.identities = (scopes.push scope).identities) :
    ∃ innermost, left.at? scopes.depth = some innermost ∧ left.current = innermost ∧
      (left.truncate scopes.depth).push innermost = left ∧
      (left.truncate scopes.depth).depth = scopes.depth := by
  obtain ⟨id, pushed⟩ := identities_push scope scopes
  rw [pushed, identities_eq] at same
  cases inner : left.inner with
  | nil =>
      rw [inner] at same
      have lengths := congrArg List.length same
      simp [length_identities, depth] at lengths
  | cons innermost rest =>
      rw [inner, List.map_cons, List.cons_append, List.cons.injEq] at same
      have lengths := congrArg List.length same.2
      rw [length_identities] at lengths
      have depths : scopes.depth = rest.length + 1 := by
        simpa using lengths.symm
      have truncated : left.truncate scopes.depth = { left with inner := rest } := by
        simp [truncate, inner, depths]
      refine ⟨innermost, ?_, ?_, ?_, ?_⟩
      · simp [at?, frames, inner, depths]
      · simp [current, inner]
      · rw [truncated]
        unfold push
        rw [same.1]
        cases left
        cases inner
        rfl
      · rw [truncated, depths]
        rfl

theorem global_push (scope : Scope) (scopes : ScopeStack) : (scopes.push scope).global = scopes.global := by
  unfold push
  split <;> rfl

theorem bindings_current_push (scope : Scope) (scopes : ScopeStack) :
    (scopes.push scope).current.bindings = scope.bindings := by
  unfold push
  split <;> rfl

end ScopeStack

/-! ### Turns -/

def onlyTask : TaskId := ⟨0⟩

/-- A task that nothing keeps from running. -/
structure Task.Unhindered (task : Task) : Prop where
  body : task.body.isSome = true
  waitingFor : task.waitingFor = none
  wakeAt : task.wakeAt = none
  deadline : task.deadline = none

/-- A task that waits for nothing and whose future nobody holds. -/
structure Task.Solitary (function : FunctionDecl) (receiver : Option Receiver) (task : Task) :
    Prop where
  body : task.body = some function
  isFinished : task.isFinished = false
  waitingFor : task.waitingFor = none
  wakeAt : task.wakeAt = none
  deadline : task.deadline = none
  future : task.future = .pending
  futureSite : task.futureSite = none
  receiver : task.receiver = receiver
  isPublished : task.isPublished = false

theorem Task.Solitary.unhindered {function : FunctionDecl} {receiver : Option Receiver} {task : Task}
    (solitary : task.Solitary function receiver) : task.Unhindered where
  body := by
    rw [solitary.body]
    rfl
  waitingFor := solitary.waitingFor
  wakeAt := solitary.wakeAt
  deadline := solitary.deadline

theorem Task.Solitary.start {function : FunctionDecl} {receiver : Option Receiver} {task : Task}
    (solitary : task.Solitary function receiver) : task.start.Solitary function receiver := by
  unfold Task.start
  split
  · exact solitary
  · exact { solitary with }

theorem Task.isStarted_start (task : Task) : task.start.isStarted = true := by
  unfold Task.start
  split
  · rename_i started
    exact started
  · rfl

theorem Task.counter_start (task : Task) : task.start.counter = task.counter := by
  unfold Task.start
  split <;> rfl

/-- The session between two turns of the only task. Entering the task gives the executor. -/
structure Resting (function : FunctionDecl) (receiver : Option Receiver) (depth : Nat)
    (entered : Executor) (task : Task) (session : Session) : Prop where
  tasks : session.scheduler.tasks = [task]
  queue : session.scheduler.queue.ids = [onlyTask]
  active : session.scheduler.active = []
  budget : session.budget = none
  solitary : task.Solitary function receiver
  depth : session.executor.scopes.depth = depth
  held : ∃ scope, task.start.scope = some scope
  enters : (StepFrame.enter onlyTask task.start session.executor).2 = entered

/-- As `Resting`, of a task that has nobody to report to. -/
abbrev Parked (function : FunctionDecl) : Nat → Executor → Task → Session → Prop :=
  Resting function none

theorem Resting.unfinished {function : FunctionDecl} {receiver : Option Receiver} {depth : Nat}
    {entered : Executor} {task : Task} {session : Session}
    (parked : Resting function receiver depth entered task session) :
    session.scheduler.isFinished onlyTask = false := by
  unfold Scheduler.isFinished Scheduler.task?
  rw [parked.tasks]
  exact parked.solitary.isFinished

namespace Interpreter

variable (interpreter : Interpreter)

/-- What a turn does after the step of its task. -/
def concluding (id : TaskId) (status : StepStatus) : Act (Option (List TaskId)) := do
  match status with
  | .done => Act.finalize id
  | .pending => requeue id
  | .blocked => requeue id
  return some (← afterTurn [] id status)

/-- What a turn makes of the outcome of its step. -/
def turnEnding (id : TaskId) : Outcome StepStatus → Outcome (Option (List TaskId))
  | .done status after => concluding id status after
  | .raised signal after => .raised signal after
  | .halted moment => .halted moment

def popping (id : TaskId) (rest : List TaskId) (session : Session) : Session :=
  { session with scheduler := { session.scheduler with queue := ⟨rest⟩ } }.recorded (.dequeued id)

def taken (session : Session) : Session :=
  { session.ticked with
    scheduler := { session.scheduler with queue := ⟨[]⟩ }
    journal := .dequeued onlyTask :: session.journal }

variable {interpreter} {function : FunctionDecl} {receiver : Option Receiver} {depth : Nat}
  {entered : Executor} {task : Task} {session : Session}

theorem step_unhindered {id : TaskId} (found : session.scheduler.task? id = some task)
    (unhindered : task.Unhindered) (unfinished : task.isFinished = false) :
    interpreter.step id session =
      interpreter.runStatement id session.clock.now (session.ticked.onTask id woken) := by
  obtain ⟨function, body⟩ := Option.isSome_iff_exists.mp unhindered.body
  rw [step_free found unfinished unhindered.waitingFor]
  refine stepReady_embodied found ?_ ?_ body
  · rw [unhindered.deadline]
    rfl
  · rw [unhindered.wakeAt]
    rfl

theorem cycle_front {id : TaskId} {rest : List TaskId}
    (queue : session.scheduler.queue.ids = id :: rest) (active : session.scheduler.active = [])
    (unlimited : session.budget = none) :
    interpreter.cycle session =
      (interpreter.step id >>= afterStep id) (popping id rest session) := by
  have idle : id ∉ session.scheduler.active := by
    rw [active]
    exact List.not_mem_nil
  rw [interpreter.cycle_taking queue idle]
  exact Act.bind_of_done (@Act.note_unlimited (session.taking rest) unlimited (.dequeued id))

theorem turn_front {id : TaskId} {rest : List TaskId}
    (queue : session.scheduler.queue.ids = id :: rest) (active : session.scheduler.active = [])
    (unlimited : session.budget = none) :
    interpreter.turn [] session = turnEnding id (interpreter.step id (popping id rest session)) := by
  unfold turn
  rw [Act.bind_apply, cycle_front queue active unlimited, Act.bind_apply]
  cases interpreter.step id (popping id rest session) with
  | halted moment => rfl
  | raised signal after => rfl
  | done status after =>
      cases status with
      | done => exact congrFun (Act.bind_assoc (Act.finalize id) _ _) after
      | pending => exact congrFun (Act.bind_assoc (requeue id) _ _) after
      | blocked => exact congrFun (Act.bind_assoc (requeue id) _ _) after

theorem turn_empty (queue : session.scheduler.queue.ids = []) (swept : List TaskId) :
    interpreter.turn swept session = .done none session :=
  Act.bind_of_done (interpreter.cycle_empty queue)

theorem step_solitary (tasks : session.scheduler.tasks = [task])
    (solitary : task.Solitary function receiver) :
    interpreter.step onlyTask session =
      interpreter.runStatement onlyTask session.clock.now session.ticked := by
  have found : session.scheduler.task? onlyTask = some task := by
    unfold Scheduler.task?
    rw [tasks]
    rfl
  have awake : woken task = task := by
    unfold woken
    rw [← solitary.wakeAt]
  have unchanged : session.ticked.onTask onlyTask woken = session.ticked := by
    unfold Session.onTask Scheduler.modifyTask
    have same : session.ticked.scheduler.tasks.modify onlyTask.index woken =
        session.ticked.scheduler.tasks := by
      change session.scheduler.tasks.modify 0 woken = session.scheduler.tasks
      rw [tasks]
      change [woken task] = [task]
      rw [awake]
    rw [same]
  rw [step_unhindered found solitary.unhindered solitary.isFinished, unchanged]

theorem turn_parked (parked : Resting function receiver depth entered task session) :
    interpreter.turn [] session =
      turnEnding onlyTask (interpreter.runStatement onlyTask session.clock.now (taken session)) := by
  have tasks : (popping onlyTask [] session).scheduler.tasks = [task] := parked.tasks
  rw [turn_front parked.queue parked.active parked.budget, step_solitary tasks parked.solitary]
  rfl

theorem concluding_pending (unlimited : session.budget = none) (id : TaskId) :
    concluding id .pending session =
      .done (some [])
        ({ session with scheduler := session.scheduler.enqueue id }.recorded (.requeued id)) := by
  have queued : ({ session with scheduler := session.scheduler.enqueue id } : Session).budget =
      none := unlimited
  have noted := Act.note_unlimited queued (.requeued id)
  change (requeue id >>= _ : Act (Option (List TaskId))) session = _
  rw [Act.bind_apply, requeue, Act.updateScheduler_bind, noted]
  rfl

/-- The only task has been finished: its result is there and nothing is queued. -/
structure Concluded (value : Value) (bindings : List (String × Value)) (session : Session) :
    Prop where
  tasks : ∃ task, session.scheduler.tasks = [task] ∧ task.isFinished = true ∧
    task.result = some value ∧ task.scope.map Scope.bindings = some bindings
  queue : session.scheduler.queue.ids = []
  budget : session.budget = none

def published (session : Session) : Session :=
  ((session.onTask onlyTask fun task => { task with isPublished := true, receiver := none }).counting
    fun statistics => { statistics with tasksCompleted := statistics.tasksCompleted + 1 }).recorded
      (.finalized onlyTask)

theorem finalize_solitary {value : Value}
    (tasks : session.scheduler.tasks = [task.complete value])
    (solitary : task.Solitary function none)
    (unlimited : session.budget = none) :
    Act.finalize onlyTask session = .done () (published session) := by
  have found : session.scheduler.task? onlyTask = some (task.complete value) := by
    unfold Scheduler.task?
    rw [tasks]
    rfl
  have isPublished : (task.complete value).isPublished = false := solitary.isPublished
  have receiver : (task.complete value).receiver = none := solitary.receiver
  have futureSite : (task.complete value).futureSite = none := solitary.futureSite
  rw [Act.finalize_ready found rfl isPublished]
  unfold Act.reportInstance Task.mergedReceiver
  rw [receiver, futureSite]
  exact @Act.note_unlimited ((session.onTask onlyTask _).counting _) unlimited _

theorem concluding_done {value : Value} (tasks : session.scheduler.tasks = [task.complete value])
    (solitary : task.Solitary function none) (queue : session.scheduler.queue.ids = [])
    (unlimited : session.budget = none) {scope : Scope} (held : task.scope = some scope) :
    concluding onlyTask .done session = .done (some []) (published session) ∧
      Concluded value scope.bindings (published session) := by
  constructor
  · change (Act.finalize onlyTask >>= _ : Act (Option (List TaskId))) session = _
    rw [Act.bind_apply, finalize_solitary tasks solitary unlimited]
    rfl
  · refine ⟨⟨{ task.complete value with isPublished := true, receiver := none }, ?_, rfl, rfl, ?_⟩,
      queue, unlimited⟩
    · change session.scheduler.tasks.modify 0 _ = _
      rw [tasks]
      rfl
    · change task.scope.map Scope.bindings = _
      rw [held]
      rfl

/-- The body of the only task is over: its result is there, with the scope that it has left, and the
turn has yet to publish them. -/
structure Over (function : FunctionDecl) (receiver : Option Receiver) (depth : Nat) (value : Value)
    (bindings : List (String × Value)) (session : Session) : Prop where
  tasks : ∃ (task : Task) (scope : Scope), session.scheduler.tasks = [task.complete value] ∧
    task.Solitary function receiver ∧ task.scope = some scope ∧ scope.bindings = bindings
  queue : session.scheduler.queue.ids = []
  budget : session.budget = none
  depth : session.executor.scopes.depth = depth

theorem Over.concludes {value : Value} {bindings : List (String × Value)}
    (closing : Over function none depth value bindings session) :
    concluding onlyTask .done session = .done (some []) (published session) ∧
      Concluded value bindings (published session) := by
  obtain ⟨task, scope, tasks, solitary, held, rfl⟩ := closing.tasks
  exact concluding_done tasks solitary closing.queue closing.budget held

/-- The statement of the only task is about to run. -/
structure Underway (task : Task) (start : Session) : Prop where
  tasks : start.scheduler.tasks = [stepCounted task]
  queue : start.scheduler.queue.ids = []
  active : start.scheduler.active = [onlyTask]
  budget : start.budget = none

theorem tasks_started (parked : Resting function receiver depth entered task session) :
    ((taken session).onTask onlyTask Task.start).scheduler.tasks = [task.start] := by
  change session.scheduler.tasks.modify 0 Task.start = _
  rw [parked.tasks]
  rfl

theorem found_started (parked : Resting function receiver depth entered task session) :
    ((taken session).onTask onlyTask Task.start).scheduler.task? onlyTask = some task.start := by
  unfold Scheduler.task?
  rw [tasks_started parked]
  rfl

theorem turn_executes (parked : Resting function receiver depth entered task session) {statement : Stmt}
    (present : task.start.statements[task.start.counter]? = some statement) :
    ∃ start, start.executor = entered ∧ Underway task.start start ∧
      interpreter.turn [] session =
        turnEnding onlyTask (stepEnding onlyTask task.start session.executor
          (interpreter.exec [.item task.start.counter] statement start)) := by
  let announced := announcing onlyTask ((taken session).onTask onlyTask Task.start)
  let noted := announced.recorded (.stepped onlyTask task.start.counter session.clock.now)
  have unlimited : announced.budget = none := parked.budget
  refine ⟨noted.enteringTask onlyTask task.start, parked.enters, ⟨?_, rfl, ?_, parked.budget⟩, ?_⟩
  · change ((taken session).onTask onlyTask Task.start).scheduler.tasks.modify 0 stepCounted = _
    rw [tasks_started parked]
    rfl
  · change onlyTask :: session.scheduler.active = _
    rw [parked.active]
  · have run : interpreter.runStatement onlyTask session.clock.now (taken session) =
        stepEnding onlyTask task.start session.executor
          (interpreter.exec [.item task.start.counter] statement
            (noted.enteringTask onlyTask task.start)) := by
      rw [runStatement_executing (found_started parked) present, executing_apply]
      exact Act.bind_of_done (Act.note_unlimited unlimited _)
    rw [turn_parked parked, run]

theorem turn_exhausted (parked : Resting function receiver depth entered task session)
    (absent : task.start.statements[task.start.counter]? = none) {scope : Scope}
    (held : task.start.scope = some scope) :
    ∃ completed, interpreter.turn [] session = concluding onlyTask .done completed ∧
      completed.executor = session.executor ∧
      Over function receiver depth .void scope.bindings completed := by
  let completed := ((taken session).onTask onlyTask Task.start).onTask onlyTask (Task.complete .void)
  have tasks : completed.scheduler.tasks = [task.start.complete .void] := by
    change ((taken session).onTask onlyTask Task.start).scheduler.tasks.modify 0 (Task.complete .void) =
      _
    rw [tasks_started parked]
    rfl
  refine ⟨completed, ?_, rfl,
    ⟨_, scope, tasks, parked.solitary.start, held, rfl⟩, rfl, parked.budget, parked.depth⟩
  have run : interpreter.runStatement onlyTask session.clock.now (taken session) =
      .done .done completed := runStatement_exhausted (found_started parked) absent
  rw [turn_parked parked, run]
  rfl

/-- What the statement of the only task leaves as it was. -/
structure Ran (start left : Session) : Prop where
  executor : left.executor =
    { start.executor with
      scopes := left.executor.scopes
      output := left.executor.output
      positions := left.executor.positions }
  scheduler : left.scheduler = start.scheduler
  budget : left.budget = none
  scopes : left.executor.scopes.identities = start.executor.scopes.identities

/-- The task as it waits for its next turn, where its statement left it. -/
def setAside (left : Session) (next : Nat → Nat) (task : Task) : Task :=
  { task with
    scope := some left.executor.scopes.current
    positions := left.executor.positions
    counter := next task.counter }

section

variable {start left : Session} (parked : Resting function receiver depth start.executor task session)
  (underway : Underway task.start start) (ran : Ran start left)

include parked ran

theorem scope_left :
    (StepFrame.enter onlyTask task.start session.executor).1.scopeIn left.executor =
        left.executor.scopes.current ∧
      (left.executor.scopes.truncate session.executor.scopes.depth).push
        left.executor.scopes.current = left.executor.scopes ∧
      (left.executor.scopes.truncate session.executor.scopes.depth).depth =
        session.executor.scopes.depth := by
  have pushed : start.executor.scopes =
      session.executor.scopes.push (task.start.scope.getD {}) := by
    rw [← parked.enters]
    rfl
  have same := ran.scopes
  rw [pushed] at same
  obtain ⟨innermost, place, current, again, depths⟩ := ScopeStack.reenter same
  rw [current]
  refine ⟨?_, again, depths⟩
  change (left.executor.scopes.at? session.executor.scopes.depth).getD {} = innermost
  rw [place]
  rfl

theorem reenters {resting : Task} (scope : resting.scope = some left.executor.scopes.current)
    (positions : resting.positions = left.executor.positions)
    (autoYield : resting.autoYield = task.start.autoYield) :
    (StepFrame.enter onlyTask resting
      ((StepFrame.enter onlyTask task.start session.executor).1.leave left.executor)).2 =
        left.executor := by
  obtain ⟨-, again, -⟩ := scope_left parked ran
  have running : left.executor.currentTask = some onlyTask := by
    rw [ran.executor, ← parked.enters]
    rfl
  have yielding : left.executor.autoYield = task.start.autoYield := by
    rw [ran.executor, ← parked.enters]
    rfl
  change { left.executor with
    currentTask := some onlyTask
    autoYield := resting.autoYield
    scopes := (left.executor.scopes.truncate session.executor.scopes.depth).push
      (resting.scope.getD {})
    positions := resting.positions } = left.executor
  rw [scope, positions, autoYield, ← running, ← yielding]
  change { left.executor with
    scopes := (left.executor.scopes.truncate session.executor.scopes.depth).push
      left.executor.scopes.current } = left.executor
  rw [again]

omit parked in
include underway in
theorem tasks_left (before : Executor) (change : Task → Task) :
    ((left.leavingTask onlyTask task.start before).onTask onlyTask
      change).scheduler.tasks = [change (stepCounted task.start)] := by
  change left.scheduler.tasks.modify 0 change = _
  rw [ran.scheduler, underway.tasks]
  rfl

include underway

theorem parks (next : Nat → Nat) :
    ∃ after, concluding onlyTask .pending ((left.leavingTask onlyTask task.start session.executor).onTask
        onlyTask (setAside left next)) = .done (some []) after ∧
      Resting function receiver depth left.executor (setAside left next (stepCounted task.start))
        after := by
  let resting := setAside left next (stepCounted task.start)
  have started : resting.start = resting := if_pos task.isStarted_start
  have tasks := tasks_left underway ran session.executor (setAside left next)
  have solitary := parked.solitary.start
  obtain ⟨-, -, depths⟩ := scope_left parked ran
  refine ⟨_, @concluding_pending ((left.leavingTask onlyTask task.start session.executor).onTask
    onlyTask (setAside left next)) ran.budget onlyTask,
    ⟨tasks, ?_, ?_, ran.budget, { solitary with }, depths.trans parked.depth, ?_, ?_⟩⟩
  · change left.scheduler.queue.ids ++ [onlyTask] = _
    rw [ran.scheduler, underway.queue]
    rfl
  · change left.scheduler.active.tail = _
    rw [ran.scheduler, underway.active]
    rfl
  · rw [started]
    exact ⟨_, rfl⟩
  · rw [started]
    exact reenters parked ran rfl rfl rfl

theorem finishes (value : Value) {change : Task → Task}
    (scope : (change (stepCounted task.start)).scope = some left.executor.scopes.current)
    (solitary : (change (stepCounted task.start)).Solitary function receiver) :
    Over function receiver depth value left.executor.scopes.current.bindings
      (((left.leavingTask onlyTask task.start session.executor).onTask onlyTask change).onTask
        onlyTask (Task.complete value)) := by
  obtain ⟨-, -, depths⟩ := scope_left parked ran
  refine ⟨⟨_, _, ?_, solitary, scope, rfl⟩, ?_, ran.budget, depths.trans parked.depth⟩
  · change ((left.leavingTask onlyTask task.start session.executor).onTask onlyTask
      change).scheduler.tasks.modify 0 (Task.complete value) = _
    rw [tasks_left underway ran session.executor change]
    rfl
  · change left.scheduler.queue.ids = []
    rw [ran.scheduler, underway.queue]

end

end Interpreter

end CooperativeTasks
