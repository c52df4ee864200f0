import CooperativeTasks.Proofs.Deepening
import CooperativeTasks.Proofs.ScopeIdentities

set_option autoImplicit false

/-! How the brackets of the interpreter can end.

For each bracket there is one rule that lists its endings, with the sessions it goes through
written out. A property of what a call, an await or a turn of the queue leads to is shown by
going through the endings, without opening the bracket again. -/

namespace CooperativeTasks

variable {α β : Type}

/-- A session after an event was recorded, which takes nothing but a moment. -/
structure Session.Noted (event : Event) (before after : Session) : Prop where
  executor : after.executor = before.executor
  scheduler : after.scheduler = before.scheduler
  clock : after.clock = before.clock
  journal : after.journal = event :: before.journal

namespace Act

theorem bind_elim {first : Act α} {next : α → Act β} {session : Session}
    {motive : Outcome β → Prop}
    (done : ∀ value after, first session = .done value after → motive (next value after))
    (raised : ∀ signal after, first session = .raised signal after → motive (.raised signal after))
    (halted : ∀ moment, first session = .halted moment → motive (.halted moment)) :
    motive ((first >>= next) session) := by
  rw [bind_apply]
  cases run : first session with
  | done value after => exact done value after run
  | raised signal after => exact raised signal after run
  | halted moment => exact halted moment run

theorem bind_session {first : Act α} {next : α → Act β} {session : Session}
    {motive : Session → Prop} (head : motive (first session).session)
    (tail : ∀ value after, first session = .done value after → motive after →
      motive (next value after).session) : motive ((first >>= next) session).session := by
  rw [bind_apply]
  cases run : first session with
  | done value after =>
      rw [run] at head
      exact tail value after run head
  | raised signal after =>
      rw [run] at head
      exact head
  | halted moment =>
      rw [run] at head
      exact head

theorem attempt_session (action : Act α) (session : Session) :
    (attempt action session).session = (action session).session := by
  unfold attempt
  cases action session <;> rfl

theorem attempt_halted {action : Act α} {session moment : Session}
    (halted : attempt action session = .halted moment) : action session = .halted moment := by
  unfold attempt at halted
  cases run : action session with
  | done value after =>
      rw [run] at halted
      cases halted
  | raised signal after =>
      rw [run] at halted
      cases halted
  | halted early =>
      rw [run] at halted
      cases halted
      rfl

theorem bind_done {first : Act α} {next : α → Act β} {session after : Session} {result : β}
    (ended : (first >>= next) session = .done result after) :
    ∃ value between, first session = .done value between ∧ next value between = .done result after := by
  rw [bind_apply] at ended
  cases run : first session with
  | done value between =>
      rw [run] at ended
      exact ⟨value, between, rfl, ended⟩
  | raised signal left =>
      rw [run] at ended
      cases ended
  | halted moment =>
      rw [run] at ended
      cases ended

theorem note_cases (event : Event) (session : Session) :
    (∃ after, session.Noted event after ∧ note event session = .done () after) ∨
      ∃ moment, session.Noted event moment ∧ note event session = .halted moment := by
  simp only [note, moment]
  split
  · refine .inl ⟨_, ?_, rfl⟩
    exact ⟨rfl, rfl, rfl, rfl⟩
  · refine .inr ⟨_, ?_, rfl⟩
    exact ⟨rfl, rfl, rfl, rfl⟩
  · refine .inl ⟨_, ?_, rfl⟩
    exact ⟨rfl, rfl, rfl, rfl⟩

theorem note_elim {event : Event} {session : Session} {motive : Outcome Unit → Prop}
    (done : ∀ after, session.Noted event after → motive (.done () after))
    (halted : ∀ moment, session.Noted event moment → motive (.halted moment)) :
    motive (note event session) := by
  rcases note_cases event session with ⟨after, noted, run⟩ | ⟨moment, noted, run⟩
  · rw [run]
    exact done after noted
  · rw [run]
    exact halted moment noted

theorem note_bind_elim {event : Event} {next : Unit → Act β} {session : Session}
    {motive : Outcome β → Prop}
    (done : ∀ after, session.Noted event after → motive (next () after))
    (halted : ∀ moment, session.Noted event moment → motive (.halted moment)) :
    motive ((note event >>= next) session) := by
  rw [bind_apply]
  rcases note_cases event session with ⟨after, noted, run⟩ | ⟨moment, noted, run⟩
  · rw [run]
    exact done after noted
  · rw [run]
    exact halted moment noted

end Act

namespace Session

/-! ### The sessions that brackets go through -/

def onTask (id : TaskId) (change : Task → Task) (session : Session) : Session :=
  { session with scheduler := session.scheduler.modifyTask id change }

def counting (change : Statistics → Statistics) (session : Session) : Session :=
  { session with scheduler := session.scheduler.countWith change }

def ticked (session : Session) : Session :=
  { session with
    clock := { session.clock with now := session.clock.now + session.clock.tick } }

def enteringCall (scope : Scope) (session : Session) : Session :=
  { session with executor := session.executor.enterCall scope }

def leavingCall (before : Executor) (left : Session) : Session :=
  { left with executor := before.leaveCall left.executor }

def enteringTask (id : TaskId) (task : Task) (session : Session) : Session :=
  { session with
    scheduler := { session.scheduler with active := id :: session.scheduler.active }
    executor := (StepFrame.enter id task session.executor).2 }

def leavingTask (id : TaskId) (task : Task) (before : Executor) (left : Session) : Session :=
  { left with
    scheduler := { left.scheduler with active := left.scheduler.active.tail }
    executor := (StepFrame.enter id task before).1.leave left.executor }

/-- Sets or clears the mark of the task that awaits, if it is a task that does. -/
def awaitedBy (waiter : Option TaskId) (awaited : Option TaskId) (session : Session) : Session :=
  match waiter with
  | none => session
  | some waiter => session.onTask waiter fun task => { task with waitingFor := awaited }

end Session

namespace Act

theorem executor_bind (next : Executor → Act β) (session : Session) :
    (executor >>= next) session = next session.executor session :=
  rfl

theorem modifyTask_bind (id : TaskId) (change : Task → Task) (next : Unit → Act β)
    (session : Session) :
    (modifyTask id change >>= next) session = next () (session.onTask id change) :=
  rfl

theorem readClock_bind (next : Nat → Act β) (session : Session) :
    (readClock >>= next) session = next session.clock.now session.ticked :=
  rfl

theorem updateScheduler_bind (change : Scheduler → Scheduler) (next : Unit → Act β)
    (session : Session) :
    (updateScheduler change >>= next) session =
      next () { session with scheduler := change session.scheduler } :=
  rfl

theorem update_bind (change : Session → Session) (next : Unit → Act β) (session : Session) :
    (update change >>= next) session = next () (change session) :=
  rfl

end Act

/-! ### Registering -/

def Session.registering (task : Task) (session : Session) : Session :=
  { session with scheduler := (session.scheduler.register task).2 }

theorem Act.register_elim {task : Task} {session : Session} {motive : Outcome TaskId → Prop}
    (registered : ∀ autoYield after,
      (session.registering task).Noted
          (.registered session.scheduler.ids.next task.name autoYield) after →
        motive (.done session.scheduler.ids.next after) ∧ motive (.halted after)) :
    motive (register task session) := by
  rw [register_eq]
  change motive ((note _ >>= _) (session.registering task))
  exact note_bind_elim (fun after noted => (registered _ after noted).1)
    (fun after noted => (registered _ after noted).2)

theorem Act.load_elim {program : Program} {session : Session} {motive : Outcome Unit → Prop}
    (loaded : ∀ functions structs after,
      { session with executor := session.executor.load program }.Noted
          (.programLoaded functions structs) after →
        motive (.done () after) ∧ motive (.halted after)) :
    motive (load program session) := by
  change motive (note _ { session with executor := session.executor.load program })
  exact note_elim (fun after noted => (loaded _ _ after noted).1)
    (fun after noted => (loaded _ _ after noted).2)

/-! ### Calls and awaits -/

namespace Act

def callEnding (before : Executor) : Outcome Unit → Outcome (Value × Executor)
  | .done () left => .done (.void, left.executor) (left.leavingCall before)
  | .raised (.returning value) left => .done (value, left.executor) (left.leavingCall before)
  | .raised signal left => .raised (.fault signal.toFault) (left.leavingCall before)
  | .halted moment => .halted moment

theorem calling_elim {name : String} {scope : Scope} {body : Act Unit} {session : Session}
    {motive : Outcome (Value × Executor) → Prop}
    (refused : session.executor.settings.maxCallDepth ≤ session.executor.callDepth →
      motive (.raised (.fault (.callDepthExceeded session.executor.settings.maxCallDepth)) session))
    (cut : session.executor.callDepth < session.executor.settings.maxCallDepth →
      ∀ moment, session.Noted (.called name session.executor.callDepth) moment →
        motive (.halted moment))
    (entered : session.executor.callDepth < session.executor.settings.maxCallDepth →
      ∀ noted, session.Noted (.called name session.executor.callDepth) noted →
        motive (callEnding session.executor (body (noted.enteringCall scope)))) :
    motive (calling name scope body session) := by
  simp only [calling, executor, bind_apply, read]
  by_cases deep : session.executor.settings.maxCallDepth ≤ session.executor.callDepth
  · rw [if_pos deep]
    exact refused deep
  · rw [if_neg deep]
    have shallow := Nat.lt_of_not_le deep
    refine note_bind_elim (fun noted same => ?_) (cut shallow)
    have ending := entered shallow noted same
    simp only [bind_apply, updateExecutor, update, attempt]
    unfold Session.enteringCall at ending
    cases run : body { noted with executor := noted.executor.enterCall scope } with
    | done value left =>
        rw [run] at ending
        exact ending
    | raised signal left =>
        rw [run] at ending
        cases signal <;> exact ending
    | halted moment =>
        rw [run] at ending
        exact ending

theorem awaiting_elim {id : TaskId} {drive : Act Unit} {session : Session}
    {motive : Outcome Unit → Prop}
    (cut : ∀ moment, session.Noted (.awaiting id session.executor.currentTask) moment →
      motive (.halted moment))
    (halted : ∀ noted, session.Noted (.awaiting id session.executor.currentTask) noted →
      ∀ moment, drive (noted.awaitedBy session.executor.currentTask (some id)) = .halted moment →
        motive (.halted moment))
    (done : ∀ noted, session.Noted (.awaiting id session.executor.currentTask) noted →
      ∀ left, drive (noted.awaitedBy session.executor.currentTask (some id)) = .done () left →
        ∀ after, (left.awaitedBy session.executor.currentTask none).Noted
            (.awaitEnded id session.executor.currentTask) after →
          motive (.done () after) ∧ motive (.halted after))
    (raised : ∀ noted, session.Noted (.awaiting id session.executor.currentTask) noted →
      ∀ signal left,
        drive (noted.awaitedBy session.executor.currentTask (some id)) = .raised signal left →
        ∀ after, (left.awaitedBy session.executor.currentTask none).Noted
            (.awaitEnded id session.executor.currentTask) after →
          motive (.raised signal after) ∧ motive (.halted after)) :
    motive (awaiting id drive session) := by
  simp only [awaiting, executor, bind_apply, read]
  refine note_bind_elim (fun noted same => ?_) cut
  cases current : session.executor.currentTask with
  | none =>
      simp only [current, Session.awaitedBy] at halted done raised same
      simp only [attempt, bind_apply]
      cases run : drive noted with
      | done value left =>
          exact note_bind_elim (fun after ended => (done noted same left run after ended).1)
            (fun after ended => (done noted same left run after ended).2)
      | raised signal left =>
          exact note_bind_elim (fun after ended => (raised noted same signal left run after ended).1)
            (fun after ended => (raised noted same signal left run after ended).2)
      | halted moment => exact halted noted same moment run
  | some waiter =>
      simp only [current, Session.awaitedBy] at halted done raised same
      simp only [attempt, bind_apply, updateScheduler, update]
      cases run : drive (noted.onTask waiter fun task => { task with waitingFor := some id }) with
      | done value left =>
          have next := done noted same left run
          simp only [Session.onTask, Scheduler.waitOn] at run ⊢
          rw [run]
          exact note_bind_elim (fun after ended => (next after ended).1)
            (fun after ended => (next after ended).2)
      | raised signal left =>
          have next := raised noted same signal left run
          simp only [Session.onTask, Scheduler.waitOn] at run ⊢
          rw [run]
          exact note_bind_elim (fun after ended => (next after ended).1)
            (fun after ended => (next after ended).2)
      | halted moment =>
          have next := halted noted same moment run
          simp only [Session.onTask, Scheduler.waitOn] at run ⊢
          rw [run]
          exact next

end Act

/-! ### Steps -/

/-- The scheduler after a step, out of the one that its statement left. -/
def Scheduler.settled (id : TaskId) (change : Task → Task) (left : Scheduler) : Scheduler :=
  Scheduler.modifyTask id change { left with active := left.active.tail }

theorem Scheduler.modifyTask_modifyTask (id : TaskId) (first second : Task → Task)
    (scheduler : Scheduler) :
    (scheduler.modifyTask id first).modifyTask id second =
      scheduler.modifyTask id (second ∘ first) := by
  simp only [Scheduler.modifyTask, List.modify_modify_eq]

namespace Interpreter

variable (interpreter : Interpreter)

theorem execInTask_apply (id : TaskId) (task : Task) (statement : Stmt) (session : Session) :
    interpreter.execInTask id task statement session =
      match interpreter.exec [.item task.counter] statement (session.enteringTask id task) with
      | .done () left =>
          .done (.ok (), (StepFrame.enter id task session.executor).1.scopeIn left.executor,
              left.executor.positions)
            (left.leavingTask id task session.executor)
      | .raised signal left =>
          .done (.error signal, (StepFrame.enter id task session.executor).1.scopeIn left.executor,
              left.executor.positions)
            (left.leavingTask id task session.executor)
      | .halted moment => .halted moment := by
  simp only [execInTask, Act.bind_apply, Act.updateScheduler, Act.updateExecutor, Act.update,
    Act.executor, Act.read, Act.attempt, Session.enteringTask]
  cases interpreter.exec [.item task.counter] statement
      { session with
        scheduler := { session.scheduler with active := id :: session.scheduler.active }
        executor := (StepFrame.enter id task session.executor).2 } with
  | done value left => rfl
  | raised signal left => rfl
  | halted moment => rfl

theorem execInTask_eq (id : TaskId) (task : Task) (statement : Stmt) :
    interpreter.execInTask id task statement =
      (do
        let before ← Act.executor
        Act.update (Session.enteringTask id task)
        let outcome ← Act.attempt (interpreter.exec [.item task.counter] statement)
        let left ← Act.executor
        Act.update (Session.leavingTask id task before)
        return (outcome, (StepFrame.enter id task before).1.scopeIn left, left.positions)) := by
  funext session
  rw [execInTask_apply, Act.executor_bind, Act.update_bind, Act.attempt_bind]
  cases interpreter.exec [.item task.counter] statement (session.enteringTask id task) with
  | done value left => rfl
  | raised signal left => rfl
  | halted moment => rfl

/-- The step of a task after its statement has come to an end. -/
def stepEnding (id : TaskId) (task : Task) (before : Executor) : Outcome Unit → Outcome StepStatus
  | .halted moment => .halted moment
  | .done () left =>
      let after := (left.leavingTask id task before).onTask id fun task' =>
        { task' with
          scope := some ((StepFrame.enter id task before).1.scopeIn left.executor)
          positions := left.executor.positions
          counter := task'.counter + 1 }
      if task.statements.length ≤ task.counter + 1 then
        .done .done (after.onTask id (Task.complete .void))
      else .done .pending after
  | .raised (.suspend fromLoop) left =>
      .done .pending ((left.leavingTask id task before).onTask id fun task' =>
        { task' with
          scope := some ((StepFrame.enter id task before).1.scopeIn left.executor)
          positions := left.executor.positions
          counter := if fromLoop then task'.counter else task'.counter + 1 })
  | .raised (.returning value) left =>
      .done .done (((left.leavingTask id task before).onTask id fun task' =>
        { task' with
          scope := some ((StepFrame.enter id task before).1.scopeIn left.executor) }).onTask id
            (Task.complete value))
  | .raised signal left => .raised (.fault signal.toFault) (left.leavingTask id task before)

def stepCounted (task : Task) : Task := { task with positions := {}, steps := task.steps + 1 }

def announcing (id : TaskId) (session : Session) : Session :=
  (session.onTask id stepCounted).counting fun statistics =>
    { statistics with stepsExecuted := statistics.stepsExecuted + 1 }

def stepping (id : TaskId) (task : Task) (statement : Stmt) : Act StepStatus := fun session =>
  stepEnding id task session.executor
    (interpreter.exec [.item task.counter] statement (session.enteringTask id task))

/-- The part of a step in which the statement of its task is executed. -/
def executing (id : TaskId) (task : Task) (statement : Stmt) (reading : Nat) : Act StepStatus := do
  Act.update (announcing id)
  Act.note (.stepped id task.counter reading)
  interpreter.stepping id task statement

theorem executing_apply (id : TaskId) (task : Task) (statement : Stmt) (reading : Nat)
    (session : Session) :
    interpreter.executing id task statement reading session =
      (do
        Act.note (.stepped id task.counter reading)
        interpreter.stepping id task statement : Act StepStatus) (announcing id session) :=
  rfl

def settling (id : TaskId) (task : Task) (before : Executor) : Except Signal Unit → Act StepStatus
  | .ok () => do
      Act.update fun left =>
        (left.leavingTask id task before).onTask id fun task' =>
          { task' with
            scope := some ((StepFrame.enter id task before).1.scopeIn left.executor)
            positions := left.executor.positions
            counter := task'.counter + 1 }
      if task.statements.length ≤ task.counter + 1 then
        Act.update (Session.onTask id (Task.complete .void))
        return .done
      else return .pending
  | .error (.suspend fromLoop) => do
      Act.update fun left =>
        (left.leavingTask id task before).onTask id fun task' =>
          { task' with
            scope := some ((StepFrame.enter id task before).1.scopeIn left.executor)
            positions := left.executor.positions
            counter := if fromLoop then task'.counter else task'.counter + 1 }
      return .pending
  | .error (.returning value) => do
      Act.update fun left =>
        ((left.leavingTask id task before).onTask id fun task' =>
          { task' with
            scope := some ((StepFrame.enter id task before).1.scopeIn left.executor) }).onTask id
              (Task.complete value)
      return .done
  | .error signal => do
      Act.update fun left => left.leavingTask id task before
      Act.fail signal.toFault

theorem stepping_eq (id : TaskId) (task : Task) (statement : Stmt) :
    interpreter.stepping id task statement =
      (do
        let before ← Act.executor
        Act.update (Session.enteringTask id task)
        let outcome ← Act.attempt (interpreter.exec [.item task.counter] statement)
        settling id task before outcome) := by
  funext session
  rw [Act.executor_bind, Act.update_bind, Act.attempt_bind]
  unfold stepping
  cases interpreter.exec [.item task.counter] statement (session.enteringTask id task) with
  | halted moment => rfl
  | done value left =>
      unfold stepEnding settling
      dsimp only
      rw [Act.update_bind]
      split <;> rfl
  | raised signal left => cases signal <;> rfl

theorem stepping_halted {id : TaskId} {task : Task} {statement : Stmt} {session moment : Session}
    (halted : interpreter.stepping id task statement session = .halted moment) :
    interpreter.exec [.item task.counter] statement (session.enteringTask id task) =
      .halted moment := by
  unfold stepping at halted
  cases run : interpreter.exec [.item task.counter] statement (session.enteringTask id task) with
  | halted early =>
      rw [run] at halted
      cases halted
      rfl
  | done value left =>
      rw [run] at halted
      unfold stepEnding at halted
      dsimp only at halted
      split at halted <;> cases halted
  | raised signal left =>
      rw [run] at halted
      cases signal <;> cases halted

theorem runStatement_eq (id : TaskId) (reading : Nat) :
    interpreter.runStatement id reading =
      (do
        Act.modifyTask id Task.start
        match (← Act.scheduler).task? id with
        | none => return .done
        | some task =>
            match task.statements[task.counter]? with
            | none => do
                Act.completeTask id .void
                return .done
            | some statement => interpreter.executing id task statement reading) := by
  funext session
  rw [runStatement, Act.modifyTask_bind, Act.modifyTask_bind, Act.scheduler_bind, Act.scheduler_bind]
  cases found : (session.onTask id Task.start).scheduler.task? id with
  | none => rfl
  | some task =>
      dsimp only
      cases present : task.statements[task.counter]? with
      | none => rfl
      | some statement =>
          let announced := announcing id (session.onTask id Task.start)
          change (Act.note (.stepped id task.counter reading) >>= _) announced =
            (Act.note (.stepped id task.counter reading) >>= _) announced
          rw [Act.bind_apply, Act.bind_apply]
          cases Act.note (.stepped id task.counter reading) announced with
          | done value noted =>
              dsimp only
              rw [Act.bind_apply, execInTask_apply]
              unfold stepping
              cases interpreter.exec [.item task.counter] statement (noted.enteringTask id task) with
              | halted moment => rfl
              | done value left =>
                  dsimp only [stepEnding]
                  rw [Act.modifyTask_bind]
                  split <;> rfl
              | raised signal left => cases signal <;> rfl
          | raised signal after => rfl
          | halted moment => rfl

section Statements

variable {interpreter} {id : TaskId} {reading : Nat} {session : Session} {task : Task}

theorem runStatement_unknown (gone : (session.onTask id Task.start).scheduler.task? id = none) :
    interpreter.runStatement id reading session = .done .done (session.onTask id Task.start) := by
  rw [runStatement_eq, Act.modifyTask_bind, Act.scheduler_bind, gone]
  rfl

variable (known : (session.onTask id Task.start).scheduler.task? id = some task)

include known

theorem runStatement_exhausted (exhausted : task.statements[task.counter]? = none) :
    interpreter.runStatement id reading session =
      .done .done ((session.onTask id Task.start).onTask id (Task.complete .void)) := by
  rw [runStatement_eq, Act.modifyTask_bind, Act.scheduler_bind, known]
  dsimp only
  rw [exhausted]
  rfl

theorem runStatement_executing {statement : Stmt}
    (present : task.statements[task.counter]? = some statement) :
    interpreter.runStatement id reading session =
      interpreter.executing id task statement reading (session.onTask id Task.start) := by
  rw [runStatement_eq, Act.modifyTask_bind, Act.scheduler_bind, known]
  dsimp only
  rw [present]

end Statements

theorem runStatement_elim {id : TaskId} {reading : Nat} {session : Session}
    {motive : Outcome StepStatus → Prop}
    (gone : (session.onTask id Task.start).scheduler.task? id = none →
      motive (.done .done (session.onTask id Task.start)))
    (exhausted : ∀ task, (session.onTask id Task.start).scheduler.task? id = some task →
      task.statements[task.counter]? = none →
      motive (.done .done ((session.onTask id Task.start).onTask id (Task.complete .void))))
    (cut : ∀ task, (session.onTask id Task.start).scheduler.task? id = some task →
      ∀ moment, (announcing id (session.onTask id Task.start)).Noted
          (.stepped id task.counter reading) moment →
        motive (.halted moment))
    (stepped : ∀ task, (session.onTask id Task.start).scheduler.task? id = some task →
      ∀ statement, task.statements[task.counter]? = some statement →
        ∀ noted, (announcing id (session.onTask id Task.start)).Noted
            (.stepped id task.counter reading) noted →
          motive (interpreter.stepping id task statement noted)) :
    motive (interpreter.runStatement id reading session) := by
  cases found : (session.onTask id Task.start).scheduler.task? id with
  | none =>
      rw [runStatement_unknown found]
      exact gone found
  | some task =>
      cases present : task.statements[task.counter]? with
      | none =>
          rw [runStatement_exhausted found present]
          exact exhausted task found present
      | some statement =>
          rw [runStatement_executing found present]
          exact Act.note_bind_elim (stepped task found statement present) (cut task found)

/-- What a step makes of its task when its statement has ended without a fault. -/
inductive TaskEnding (task : Task) : StepStatus → (Task → Task) → Prop where
  | advanced (scope : Scope) (positions : Positions)
      (more : task.counter + 1 < task.statements.length) :
      TaskEnding task .pending fun current =>
        { current with scope := some scope, positions, counter := current.counter + 1 }
  | exhausted (scope : Scope) (positions : Positions) :
      TaskEnding task .done fun current =>
        Task.complete .void
          { current with scope := some scope, positions, counter := current.counter + 1 }
  | suspended (scope : Scope) (positions : Positions) (fromLoop : Bool) :
      TaskEnding task .pending fun current =>
        { current with
          scope := some scope
          positions
          counter := if fromLoop then current.counter else current.counter + 1 }
  | returned (scope : Scope) (value : Value) :
      TaskEnding task .done fun current => Task.complete value { current with scope := some scope }

/-- A step ends as its statement ends: halted, with a fault, or with a change to its task. -/
theorem stepEnding_cases (id : TaskId) (task : Task) (before : Executor) (outcome : Outcome Unit) :
    (∃ moment, outcome = .halted moment ∧ stepEnding id task before outcome = .halted moment) ∨
    (∃ signal, outcome = .raised signal outcome.session ∧
      stepEnding id task before outcome =
        .raised (.fault signal.toFault) (outcome.session.leavingTask id task before)) ∨
    ∃ status change after, TaskEnding task status change ∧
      (∀ cause, outcome ≠ .raised (.fault cause) outcome.session) ∧
      (∀ moment, outcome ≠ .halted moment) ∧
      stepEnding id task before outcome = .done status after ∧
      after.scheduler = outcome.session.scheduler.settled id change := by
  cases outcome with
  | halted moment => exact .inl ⟨moment, rfl, rfl⟩
  | done value left =>
      let scope := (StepFrame.enter id task before).1.scopeIn left.executor
      have faultless (cause : Fault) : Outcome.done value left ≠ .raised (.fault cause) left := by
        intro impossible
        cases impossible
      have ended (moment : Session) : Outcome.done value left ≠ .halted moment := by
        intro impossible
        cases impossible
      refine .inr (.inr ?_)
      by_cases last : task.statements.length ≤ task.counter + 1
      · refine ⟨_, _, _, .exhausted scope left.executor.positions, faultless, ended, if_pos last, ?_⟩
        exact Scheduler.modifyTask_modifyTask id _ _ _
      · have more : task.counter + 1 < task.statements.length := by omega
        exact ⟨_, _, _, .advanced scope left.executor.positions more, faultless, ended, if_neg last,
          rfl⟩
  | raised signal left =>
      let scope := (StepFrame.enter id task before).1.scopeIn left.executor
      have ended (moment : Session) : (Outcome.raised signal left : Outcome Unit) ≠ .halted moment := by
        intro impossible
        cases impossible
      have faultless (proper : ∀ cause, signal ≠ .fault cause) (cause : Fault) :
          (Outcome.raised signal left : Outcome Unit) ≠ .raised (.fault cause) left := by
        intro same
        cases same
        exact proper cause rfl
      cases signal with
      | suspend fromLoop =>
          exact .inr (.inr ⟨_, _, _, .suspended scope left.executor.positions fromLoop,
            faultless nofun, ended, rfl, rfl⟩)
      | returning value =>
          refine .inr (.inr ⟨_, _, _, .returned scope value, faultless nofun, ended, rfl, ?_⟩)
          exact Scheduler.modifyTask_modifyTask id _ _ _
      | breakLoop => exact .inr (.inl ⟨_, rfl, rfl⟩)
      | continueLoop => exact .inr (.inl ⟨_, rfl, rfl⟩)
      | fault cause => exact .inr (.inl ⟨_, rfl, rfl⟩)

def woken (task : Task) : Task := { task with wakeAt := none }

def expiring (id : TaskId) (session : Session) : Session :=
  (session.onTask id (Task.complete (timeoutError id))).counting fun statistics =>
    { statistics with timeouts := statistics.timeouts + 1 }

def blocking (session : Session) : Session :=
  session.counting fun statistics => { statistics with stepsBlocked := statistics.stepsBlocked + 1 }

section Steps

variable {interpreter} {id : TaskId} {session : Session} {task : Task} {awaited : TaskId}

theorem stepReady_unknown (gone : session.scheduler.task? id = none) :
    interpreter.stepReady id session = .done .done session.ticked := by
  have absent : session.ticked.scheduler.task? id = none := gone
  rw [stepReady, Act.readClock_bind, Act.scheduler_bind, absent]
  rfl

theorem step_unknown (gone : session.scheduler.task? id = none) :
    interpreter.step id session = .done .done session := by
  rw [step, Act.scheduler_bind, gone]
  rfl

variable (known : session.scheduler.task? id = some task)

section Ready

include known

theorem stepReady_overdue (late : task.deadline.any (· ≤ session.clock.now) = true) :
    interpreter.stepReady id session =
      (do
        Act.note (.timedOut id)
        return .done : Act StepStatus) (expiring id session.ticked) := by
  have found : session.ticked.scheduler.task? id = some task := known
  rw [stepReady, Act.readClock_bind, Act.scheduler_bind, found]
  dsimp only
  rw [if_pos late]
  rfl

variable (timely : task.deadline.any (· ≤ session.clock.now) = false)

include timely

theorem stepReady_asleep (asleep : task.wakeAt.any (session.clock.now < ·) = true) :
    interpreter.stepReady id session = .done .blocked (blocking session.ticked) := by
  have found : session.ticked.scheduler.task? id = some task := known
  rw [stepReady, Act.readClock_bind, Act.scheduler_bind, found]
  dsimp only
  rw [timely, if_neg Bool.false_ne_true, if_pos asleep]
  rfl

variable (awake : task.wakeAt.any (session.clock.now < ·) = false)

include awake

theorem stepReady_embodied {function : FunctionDecl} (body : task.body = some function) :
    interpreter.stepReady id session =
      interpreter.runStatement id session.clock.now (session.ticked.onTask id woken) := by
  have found : session.ticked.scheduler.task? id = some task := known
  rw [stepReady, Act.readClock_bind, Act.scheduler_bind, found]
  dsimp only
  rw [timely, awake, if_neg Bool.false_ne_true, if_neg Bool.false_ne_true, Act.modifyTask_bind, body]
  rfl

theorem stepReady_bodyless (body : task.body = none) :
    interpreter.stepReady id session =
      (do
        if task.wakeAt.isSome then Act.note (.timerFired id)
        return .done : Act StepStatus)
        ((session.ticked.onTask id woken).onTask id (Task.complete .void)) := by
  have found : session.ticked.scheduler.task? id = some task := known
  rw [stepReady, Act.readClock_bind, Act.scheduler_bind, found]
  dsimp only
  rw [timely, awake, if_neg Bool.false_ne_true, if_neg Bool.false_ne_true, Act.modifyTask_bind, body]
  rfl

end Ready

include known

theorem step_finished (finished : task.isFinished = true) :
    interpreter.step id session = .done .done session := by
  rw [step, Act.scheduler_bind, known]
  dsimp only
  rw [if_pos finished]
  rfl

variable (unfinished : task.isFinished = false)

include unfinished

theorem step_free (free : task.waitingFor = none) :
    interpreter.step id session = interpreter.stepReady id session := by
  rw [step, Act.scheduler_bind, known]
  dsimp only
  rw [unfinished, if_neg Bool.false_ne_true, free]

variable (marked : task.waitingFor = some awaited)

include marked

theorem step_freed (ended : session.scheduler.isFinished awaited = true) :
    interpreter.step id session = interpreter.stepReady id
      (session.onTask id fun task => { task with waitingFor := none }) := by
  rw [step, Act.scheduler_bind, known]
  dsimp only
  rw [unfinished, if_neg Bool.false_ne_true, marked]
  dsimp only
  rw [if_pos ended]
  rfl

theorem step_waiting (going : session.scheduler.isFinished awaited = false) :
    interpreter.step id session =
      (do
        Act.note (.stillWaiting id awaited)
        return .blocked : Act StepStatus) (blocking session) := by
  rw [step, Act.scheduler_bind, known]
  dsimp only
  rw [unfinished, if_neg Bool.false_ne_true, marked]
  dsimp only
  rw [going]
  rfl

end Steps

theorem stepReady_elim {id : TaskId} {session : Session} {motive : Outcome StepStatus → Prop}
    (gone : session.scheduler.task? id = none → motive (.done .done session.ticked))
    (expired : ∀ task, session.scheduler.task? id = some task →
      task.deadline.any (· ≤ session.clock.now) = true →
      ∀ after, (expiring id session.ticked).Noted (.timedOut id) after →
        motive (.done .done after) ∧ motive (.halted after))
    (asleep : ∀ task, session.scheduler.task? id = some task →
      task.deadline.any (· ≤ session.clock.now) = false →
      task.wakeAt.any (session.clock.now < ·) = true →
      motive (.done .blocked (blocking session.ticked)))
    (bodyless : ∀ task, session.scheduler.task? id = some task →
      task.deadline.any (· ≤ session.clock.now) = false →
      task.wakeAt.any (session.clock.now < ·) = false → task.body = none →
      motive (.done .done ((session.ticked.onTask id woken).onTask id (Task.complete .void))) ∧
        ∀ after, ((session.ticked.onTask id woken).onTask id (Task.complete .void)).Noted
            (.timerFired id) after →
          motive (.done .done after) ∧ motive (.halted after))
    (ready : ∀ task, session.scheduler.task? id = some task →
      task.deadline.any (· ≤ session.clock.now) = false →
      task.wakeAt.any (session.clock.now < ·) = false → task.body.isSome = true →
      motive (interpreter.runStatement id session.clock.now (session.ticked.onTask id woken))) :
    motive (interpreter.stepReady id session) := by
  cases found : session.scheduler.task? id with
  | none =>
      rw [stepReady_unknown found]
      exact gone found
  | some task =>
      cases late : task.deadline.any (· ≤ session.clock.now) with
      | true =>
          rw [stepReady_overdue found late]
          exact Act.note_bind_elim (fun after noted => (expired task found late after noted).1)
            (fun after noted => (expired task found late after noted).2)
      | false =>
          cases early : task.wakeAt.any (session.clock.now < ·) with
          | true =>
              rw [stepReady_asleep found late early]
              exact asleep task found late early
          | false =>
              cases body : task.body with
              | some function =>
                  rw [stepReady_embodied found late early body]
                  exact ready task found late early (by rw [body]; rfl)
              | none =>
                  have fires := bodyless task found late early body
                  rw [stepReady_bodyless found late early body]
                  by_cases timer : task.wakeAt.isSome = true
                  · rw [if_pos timer]
                    exact Act.note_bind_elim (fun after noted => (fires.2 after noted).1)
                      (fun after noted => (fires.2 after noted).2)
                  · rw [if_neg timer]
                    exact fires.1

theorem step_elim {id : TaskId} {session : Session} {motive : Outcome StepStatus → Prop}
    (idle : (∀ task, session.scheduler.task? id = some task → task.isFinished = true) →
      motive (.done .done session))
    (waiting : ∀ task, session.scheduler.task? id = some task → task.isFinished = false →
      ∀ awaited, task.waitingFor = some awaited → session.scheduler.isFinished awaited = false →
        ∀ after, (blocking session).Noted (.stillWaiting id awaited) after →
          motive (.done .blocked after) ∧ motive (.halted after))
    (free : ∀ task, session.scheduler.task? id = some task → task.isFinished = false →
      task.waitingFor = none → motive (interpreter.stepReady id session))
    (freed : ∀ task, session.scheduler.task? id = some task → task.isFinished = false →
      ∀ awaited, task.waitingFor = some awaited → session.scheduler.isFinished awaited = true →
        motive (interpreter.stepReady id
          (session.onTask id fun task => { task with waitingFor := none }))) :
    motive (interpreter.step id session) := by
  cases found : session.scheduler.task? id with
  | none =>
      rw [step_unknown found]
      exact idle (by rw [found]; intro task impossible; cases impossible)
  | some task =>
      cases finished : task.isFinished with
      | true =>
          rw [step_finished found finished]
          refine idle ?_
          intro other same
          rw [found] at same
          cases same
          exact finished
      | false =>
          cases mark : task.waitingFor with
          | none =>
              rw [step_free found finished mark]
              exact free task found finished mark
          | some awaited =>
              cases ended : session.scheduler.isFinished awaited with
              | true =>
                  rw [step_freed found finished mark ended]
                  exact freed task found finished awaited mark ended
              | false =>
                  have next := waiting task found finished awaited mark ended
                  rw [step_waiting found finished mark ended]
                  exact Act.note_bind_elim (fun after noted => (next after noted).1)
                    (fun after noted => (next after noted).2)

end Interpreter

/-! ### Publishing -/

/-- How far a task has come: everything that is settled by its own steps alone, apart from where
its next step goes on. -/
structure Task.Progress where
  body : Option FunctionDecl
  isStarted : Bool
  isFinished : Bool
  counter : Nat
  steps : Nat
  result : Option Value
  resultKind : Option ValueKind
  future : Future

def Task.progress (task : Task) : Task.Progress where
  body := task.body
  isStarted := task.isStarted
  isFinished := task.isFinished
  counter := task.counter
  steps := task.steps
  result := task.result
  resultKind := task.resultKind
  future := task.future

def Scheduler.progress? (id : TaskId) (scheduler : Scheduler) : Option Task.Progress :=
  (scheduler.task? id).map Task.progress

theorem TaskMark.progress {change : Task → Task} (marks : TaskMark change) (task : Task) :
    (change task).progress = task.progress := by
  cases marks <;> rfl

theorem Scheduler.task?_modifyTask_self (id : TaskId) (change : Task → Task)
    (scheduler : Scheduler) :
    (scheduler.modifyTask id change).task? id = (scheduler.task? id).map change := by
  simp [Scheduler.task?, Scheduler.modifyTask]

theorem Scheduler.task?_modifyTask_of_ne {id other : TaskId} (different : other ≠ id)
    (change : Task → Task) (scheduler : Scheduler) :
    (scheduler.modifyTask id change).task? other = scheduler.task? other := by
  have indices : id.index ≠ other.index := by
    intro same
    apply different
    cases id
    cases other
    cases same
    rfl
  simp [Scheduler.task?, Scheduler.modifyTask, indices]

theorem Scheduler.view_modifyTask {γ : Type} (view : Option Task → γ) {change : Task → Task}
    (unseen : ∀ task, view (some (change task)) = view (some task)) (id other : TaskId)
    (scheduler : Scheduler) :
    view ((scheduler.modifyTask id change).task? other) = view (scheduler.task? other) := by
  by_cases same : other = id
  · subst other
    rw [task?_modifyTask_self]
    cases scheduler.task? id with
    | none => rfl
    | some task => exact unseen task
  · rw [task?_modifyTask_of_ne same]

/-- The task that a registration puts behind the others. -/
def Scheduler.added (task : Task) (scheduler : Scheduler) : Task :=
  { task with
    id := scheduler.ids.next
    autoYield :=
      match task.body with
      | none => false
      | some function => !function.hasYield }

@[simp] theorem Scheduler.length_register (task : Task) (scheduler : Scheduler) :
    (scheduler.register task).2.tasks.length = scheduler.tasks.length + 1 :=
  List.length_append

theorem Scheduler.task?_register (task : Task) (id : TaskId) (scheduler : Scheduler) :
    (scheduler.register task).2.task? id =
      if id.index = scheduler.tasks.length then some (scheduler.added task)
      else scheduler.task? id := by
  change (scheduler.tasks ++ [scheduler.added task])[id.index]? = _
  split
  · rename_i new
    rw [new, List.getElem?_concat_length]
  · rename_i other
    rcases Nat.lt_or_gt_of_ne other with known | unknown
    · exact List.getElem?_append_left known
    · unfold Scheduler.task?
      rw [List.getElem?_eq_none (Nat.le_of_lt unknown), List.getElem?_eq_none]
      rw [List.length_append]
      exact unknown

theorem Scheduler.task?_register_of_lt {id : TaskId} {scheduler : Scheduler}
    (known : id.index < scheduler.tasks.length) (task : Task) :
    (scheduler.register task).2.task? id = scheduler.task? id := by
  rw [task?_register, if_neg (Nat.ne_of_lt known)]

theorem Scheduler.task?_register_new {id : TaskId} {scheduler : Scheduler}
    (new : id.index = scheduler.tasks.length) (task : Task) :
    (scheduler.register task).2.task? id = some (scheduler.added task) := by
  rw [task?_register, if_pos new]

theorem Scheduler.view_register {γ : Type} (view : Option Task → γ) {task : Task}
    {scheduler : Scheduler} (unseen : view (some (scheduler.added task)) = view none) (id : TaskId) :
    view ((scheduler.register task).2.task? id) = view (scheduler.task? id) := by
  rw [task?_register]
  split
  · rename_i new
    have absent : scheduler.task? id = none := List.getElem?_eq_none (Nat.le_of_eq new.symm)
    rw [absent]
    exact unseen
  · rfl

theorem Scheduler.progress?_modifyTask {change : Task → Task}
    (keeps : ∀ task, (change task).progress = task.progress) (id other : TaskId)
    (scheduler : Scheduler) :
    (scheduler.modifyTask id change).progress? other = scheduler.progress? other :=
  view_modifyTask (Option.map Task.progress) (fun task => congrArg some (keeps task)) id other
    scheduler

/-- What publishing can do to a session: it writes to scopes, on the stack and saved, and keeps
account of it. -/
structure Session.Published (before after : Session) : Prop where
  executor : after.executor = { before.executor with scopes := after.executor.scopes }
  identities : after.executor.scopes.identities = before.executor.scopes.identities
  scheduler : after.scheduler =
    { before.scheduler with
      tasks := after.scheduler.tasks
      statistics := after.scheduler.statistics }
  progress : ∀ id, after.scheduler.progress? id = before.scheduler.progress? id
  tasks : after.scheduler.tasks.length = before.scheduler.tasks.length

namespace Session.Published

theorem trans {first second third : Session} (left : Published first second)
    (right : Published second third) : Published first third where
  executor := by
    rw [right.executor, left.executor]
  identities := right.identities.trans left.identities
  scheduler := by
    rw [right.scheduler, left.scheduler]
  progress id := (right.progress id).trans (left.progress id)
  tasks := right.tasks.trans left.tasks

theorem ofNoted {event : Event} {before after : Session} (noted : before.Noted event after) :
    Published before after where
  executor := by rw [noted.executor]
  identities := by rw [noted.executor]
  scheduler := by rw [noted.scheduler]
  progress id := by rw [noted.scheduler]
  tasks := by rw [noted.scheduler]

theorem onTask {change : Task → Task} (keeps : ∀ task, (change task).progress = task.progress)
    (id : TaskId) (session : Session) : Published session (session.onTask id change) where
  executor := rfl
  identities := rfl
  scheduler := rfl
  progress other := Scheduler.progress?_modifyTask keeps id other session.scheduler
  tasks := List.length_modify ..

theorem modifySite {change : Scope → Scope} (keeps : ∀ scope, (change scope).id = scope.id)
    (site : BindingSite) (session : Session) :
    Published session (session.modifySite site change) := by
  unfold Session.modifySite
  split
  · rename_i scopes found
    exact ⟨rfl, ScopeStack.identities_modifyFirst? keeps found, rfl, fun _ => rfl, rfl⟩
  · split
    · rename_i owner scope _ found
      refine Published.onTask ?_ owner session
      intro task
      rfl
    · exact ⟨rfl, rfl, rfl, fun _ => rfl, rfl⟩

end Session.Published

theorem Scope.writeBack_id (name : String) (value : Value) (members : List (String × Value))
    (scope : Scope) : (scope.writeBack name value members).id = scope.id := by
  unfold Scope.writeBack
  generalize kept : scope.assignExisting name value = written
  have start : written.id = scope.id := by
    rw [← kept]
    rfl
  clear kept
  induction members generalizing written with
  | nil => exact start
  | cons member rest ih => exact ih _ start

/-- The instance, with the fields that the private scope has for it. -/
def Task.mergedReceiver (task : Task) : Option Receiver :=
  task.receiver.map fun receiver =>
    { receiver with value := receiver.value.mergeMembers task.receiverMembers }

/-- The session in which a finished task is about to report. -/
def Session.reporting (id : TaskId) (receiver : Option Receiver) (session : Session) : Session :=
  (session.onTask id fun task => { task with isPublished := true, receiver }).counting
    fun statistics => { statistics with tasksCompleted := statistics.tasksCompleted + 1 }

namespace Act

def reportFuture (id : TaskId) (future : Value) : Option BindingSite → Act Unit
  | none => return
  | some site => publishFuture id site future

def reportReceiver (id : TaskId) (value : Value) (members : List (String × Value)) :
    Option BindingSite → Act Unit
  | none => return
  | some site => publishReceiver id site value members

/-- Publishes the instance of a task, if it has one that is pinned. -/
def reportInstance (id : TaskId) (task : Task) : Act Unit :=
  match task.mergedReceiver with
  | none => return
  | some receiver => reportReceiver id receiver.value task.receiverMembers receiver.site

/-- A task is marked and counted, and reports its future before its instance. -/
theorem finalize_eq (id : TaskId) :
    finalize id = (do
      match (← scheduler).task? id with
      | none => return
      | some task =>
          if task.isFinished && !task.isPublished then
            updateScheduler fun scheduler => scheduler.modifyTask id fun stored =>
              { stored with isPublished := true, receiver := task.mergedReceiver }
            count fun statistics =>
              { statistics with tasksCompleted := statistics.tasksCompleted + 1 }
            reportFuture id (task.future.toValue (some id)) task.futureSite
            reportInstance id task
            note (.finalized id)) := by
  unfold finalize
  refine congrArg (scheduler >>= ·) (funext fun scheduler => ?_)
  cases scheduler.task? id with
  | none => rfl
  | some task =>
      dsimp only
      unfold reportInstance Task.mergedReceiver
      split
      · cases task.futureSite with
        | none => rcases task.receiver with _ | ⟨value, _ | pinned⟩ <;> rfl
        | some site => rcases task.receiver with _ | ⟨value, _ | pinned⟩ <;> rfl
      · rfl

theorem finalize_unready {id : TaskId} {session : Session}
    (unready : ∀ task, session.scheduler.task? id = some task →
      task.isFinished = false ∨ task.isPublished = true) :
    finalize id session = .done () session := by
  rw [finalize_eq, scheduler_bind]
  cases found : session.scheduler.task? id with
  | none => rfl
  | some task =>
      dsimp only
      rcases unready task found with unfinished | published
      · rw [unfinished]
        rfl
      · rw [published, Bool.not_true, Bool.and_false]
        rfl

theorem finalize_ready {id : TaskId} {task : Task} {session : Session}
    (found : session.scheduler.task? id = some task) (finished : task.isFinished = true)
    (unpublished : task.isPublished = false) :
    finalize id session =
      (do
        reportFuture id (task.future.toValue (some id)) task.futureSite
        reportInstance id task
        note (.finalized id) : Act Unit) (session.reporting id task.mergedReceiver) := by
  rw [finalize_eq, scheduler_bind, found]
  dsimp only
  rw [if_pos (by rw [finished, unpublished]; rfl)]
  rfl

/-- A property of actions that is closed under what the reports of a task are made of. -/
structure ReportsClosed (id : TaskId) (holds : Act Unit → Prop) : Prop where
  pure : holds (Pure.pure ())
  bind {first : Act Unit} {next : Unit → Act Unit} :
    holds first → holds (next ()) → holds (first >>= next)
  target (site : BindingSite) {next : Option Scope → Act Unit} :
    (∀ target, holds (next target)) → holds (read (Session.siteScope? site) >>= next)
  modifySite (site : BindingSite) {change : Scope → Scope} :
    (∀ scope, (change scope).id = scope.id) → holds (update (Session.modifySite site change))
  futureSiteGone (name : String) : holds (note (.futureSiteGone id name))
  receiverSiteGone (name : String) : holds (note (.receiverSiteGone id name))

namespace ReportsClosed

variable {id : TaskId} {holds : Act Unit → Prop} (closed : ReportsClosed id holds)

include closed

theorem reportFuture (future : Value) (site : Option BindingSite) :
    holds (Act.reportFuture id future site) := by
  cases site with
  | none => exact closed.pure
  | some site =>
      refine closed.target site fun target => ?_
      split
      · exact closed.modifySite site (Scope.assignExisting_id site.name future)
      · exact closed.futureSiteGone site.name

theorem reportInstance (task : Task) : holds (Act.reportInstance id task) := by
  unfold Act.reportInstance
  rcases task.mergedReceiver with _ | ⟨value, _ | site⟩
  · exact closed.pure
  · exact closed.pure
  · refine closed.target site fun target => ?_
    split
    · exact closed.modifySite site (Scope.writeBack_id site.name value task.receiverMembers)
    · exact closed.receiverSiteGone site.name

end ReportsClosed

/-- A property of actions that is closed under what finalizing a task is made of. -/
structure FinalizeClosed (id : TaskId) (holds : Act Unit → Prop) : Prop extends
    ReportsClosed id holds where
  scheduler {next : Scheduler → Act Unit} :
    (∀ scheduler, holds (next scheduler)) → holds (Act.scheduler >>= next)
  publish (receiver : Option Receiver) :
    holds (updateScheduler fun scheduler => scheduler.modifyTask id fun task =>
      { task with isPublished := true, receiver })
  count (change : Statistics → Statistics) : holds (Act.count change)
  finalized : holds (note (.finalized id))

theorem FinalizeClosed.finalize {id : TaskId} {holds : Act Unit → Prop}
    (closed : FinalizeClosed id holds) : holds (Act.finalize id) := by
  rw [finalize_eq]
  refine closed.scheduler fun scheduler => ?_
  split
  · exact closed.pure
  · split
    · refine closed.bind (closed.publish _) (closed.bind (closed.count _) ?_)
      refine closed.bind (closed.reportFuture _ _) ?_
      exact closed.bind (closed.reportInstance _) closed.finalized
    · exact closed.pure

end Act

/-- An action that publishes, and ends in no other way than by running through or by being
halted. -/
def Act.Publishes (action : Act Unit) : Prop :=
  ∀ session, ∃ after, session.Published after ∧
    (action session = .done () after ∨ action session = .halted after)

namespace Act.Publishes

theorem pure : Act.Publishes (Pure.pure ()) :=
  fun session => ⟨session, ⟨rfl, rfl, rfl, fun _ => rfl, rfl⟩, .inl rfl⟩

theorem bind {first : Act Unit} {next : Unit → Act Unit} (head : Act.Publishes first)
    (tail : Act.Publishes (next ())) : Act.Publishes (first >>= next) := by
  intro session
  obtain ⟨middle, published, ended⟩ := head session
  rcases ended with ended | ended
  · obtain ⟨after, later, outcome⟩ := tail middle
    refine ⟨after, published.trans later, ?_⟩
    rw [bind_apply, ended]
    exact outcome
  · refine ⟨middle, published, .inr ?_⟩
    rw [bind_apply, ended]

theorem read {view : Session → α} {next : α → Act Unit}
    (tail : ∀ value, Act.Publishes (next value)) : Act.Publishes (Act.read view >>= next) :=
  fun session => tail (view session) session

theorem note (event : Event) : Act.Publishes (Act.note event) := by
  intro session
  rcases note_cases event session with ⟨after, noted, ended⟩ | ⟨moment, noted, ended⟩
  · exact ⟨after, .ofNoted noted, .inl ended⟩
  · exact ⟨moment, .ofNoted noted, .inr ended⟩

theorem modifySite {change : Scope → Scope} (keeps : ∀ scope, (change scope).id = scope.id)
    (site : BindingSite) : Act.Publishes (Act.update (Session.modifySite site change)) :=
  fun session => ⟨_, .modifySite keeps site session, .inl rfl⟩

theorem finalize (id : TaskId) : Act.Publishes (Act.finalize id) :=
  Act.FinalizeClosed.finalize
    { pure
      bind
      target := fun _ => read
      modifySite := fun site _ keeps => modifySite keeps site
      futureSiteGone := fun _ => note _
      receiverSiteGone := fun _ => note _
      scheduler := read
      publish := fun receiver session =>
        ⟨session.onTask id fun task => { task with isPublished := true, receiver },
          .onTask (by exact fun _ => rfl) id session, .inl rfl⟩
      count := fun change session =>
        ⟨session.counting change, ⟨rfl, rfl, rfl, fun _ => rfl, rfl⟩, .inl rfl⟩
      finalized := note _ }

end Act.Publishes

namespace Interpreter

variable (interpreter : Interpreter)

/-! ### Turns of the queue -/

def requeueing (id : TaskId) (session : Session) : Session :=
  { session with scheduler := session.scheduler.enqueue id }

theorem cycle_elim {session : Session} {motive : Outcome (Option (TaskId × StepStatus)) → Prop}
    (empty : session.scheduler.dequeue? = none → motive (.done none session))
    (cut : ∀ id remaining, session.scheduler.dequeue? = some (id, remaining) →
      ∀ moment, { session with scheduler := remaining }.Noted (.dequeued id) moment →
        motive (.halted moment))
    (active : ∀ id remaining, session.scheduler.dequeue? = some (id, remaining) →
      remaining.isActive id = true →
      ∀ popped, { session with scheduler := remaining }.Noted (.dequeued id) popped →
        ∀ after, (requeueing id popped).Noted (.requeued id) after →
          motive (.halted after) ∧ motive (.done none after) ∧
            motive (.done (some (id, .blocked)) after))
    (halted : ∀ id remaining, session.scheduler.dequeue? = some (id, remaining) →
      remaining.isActive id = false →
      ∀ popped, { session with scheduler := remaining }.Noted (.dequeued id) popped →
        ∀ moment, interpreter.step id popped = .halted moment → motive (.halted moment))
    (raised : ∀ id remaining, session.scheduler.dequeue? = some (id, remaining) →
      remaining.isActive id = false →
      ∀ popped, { session with scheduler := remaining }.Noted (.dequeued id) popped →
        ∀ signal left, interpreter.step id popped = .raised signal left →
          motive (.raised signal left))
    (finished : ∀ id remaining, session.scheduler.dequeue? = some (id, remaining) →
      remaining.isActive id = false →
      ∀ popped, { session with scheduler := remaining }.Noted (.dequeued id) popped →
        ∀ left, interpreter.step id popped = .done .done left →
          ∀ after, left.Published after →
            (Act.finalize id left = .halted after → motive (.halted after)) ∧
              (Act.finalize id left = .done () after → motive (.done (some (id, .done)) after)))
    (unfinished : ∀ id remaining, session.scheduler.dequeue? = some (id, remaining) →
      remaining.isActive id = false →
      ∀ popped, { session with scheduler := remaining }.Noted (.dequeued id) popped →
        ∀ status left, status ≠ .done → interpreter.step id popped = .done status left →
          ∀ after, (requeueing id left).Noted (.requeued id) after →
            motive (.halted after) ∧ motive (.done (some (id, status)) after)) :
    motive (interpreter.cycle session) := by
  -- The cases in the order of the program: the queue, the record of taking, the call stack, the
  -- step.
  rw [cycle, Act.scheduler_bind]
  cases front : session.scheduler.dequeue? with
  | none => exact empty front
  | some entry =>
      obtain ⟨id, remaining⟩ := entry
      dsimp only
      rw [Act.updateScheduler_bind]
      refine Act.note_bind_elim (fun popped noted => ?_) (cut id remaining front)
      cases running : remaining.isActive id with
      | true =>
          have back := active id remaining front running popped noted
          rw [if_pos rfl]
          refine Act.note_bind_elim (fun after noted => ?_) (fun after noted => (back after noted).1)
          obtain ⟨_, quiet, blocked⟩ := back after noted
          rw [Act.scheduler_bind]
          split
          · exact quiet
          · exact blocked
      | false =>
          rw [if_neg Bool.false_ne_true]
          refine Act.bind_elim ?_ ?_ ?_
          · intro status left stepped
            cases status with
            | done =>
                obtain ⟨after, published, ended⟩ := Act.Publishes.finalize id left
                have next := finished id remaining front running popped noted left stepped after
                  published
                dsimp only
                rw [Act.bind_apply]
                rcases ended with ended | ended
                · rw [ended]
                  exact next.2 ended
                · rw [ended]
                  exact next.1 ended
            | pending =>
                have back := unfinished id remaining front running popped noted .pending left
                  (by decide) stepped
                exact Act.note_bind_elim (fun after noted => (back after noted).2)
                  (fun after noted => (back after noted).1)
            | blocked =>
                have back := unfinished id remaining front running popped noted .blocked left
                  (by decide) stepped
                exact Act.note_bind_elim (fun after noted => (back after noted).2)
                  (fun after noted => (back after noted).1)
          · exact raised id remaining front running popped noted
          · exact halted id remaining front running popped noted

end Interpreter

def Interpreter.afterStep (id : TaskId) (status : StepStatus) : Act (Option (TaskId × StepStatus)) := do
  match status with
  | .done => Act.finalize id
  | .pending => requeue id
  | .blocked => requeue id
  return some (id, status)

/-- The session after the front of the queue was taken, with what is left of it. -/
def Session.taking (rest : List TaskId) (session : Session) : Session :=
  { session with scheduler := { session.scheduler with queue := ⟨rest⟩ } }

theorem Scheduler.dequeue?_nil {scheduler : Scheduler} (ids : scheduler.queue.ids = []) :
    scheduler.dequeue? = none := by
  unfold dequeue? ReadyQueue.pop?
  rw [ids]

theorem Scheduler.dequeue?_cons {scheduler : Scheduler} {id : TaskId} {rest : List TaskId}
    (ids : scheduler.queue.ids = id :: rest) :
    scheduler.dequeue? = some (id, { scheduler with queue := ⟨rest⟩ }) := by
  unfold dequeue? ReadyQueue.pop?
  rw [ids]

theorem Interpreter.cycle_empty (interpreter : Interpreter) {session : Session}
    (ids : session.scheduler.queue.ids = []) :
    interpreter.cycle session = .done none session := by
  rw [cycle, Act.scheduler_bind, Scheduler.dequeue?_nil ids]
  rfl

theorem Interpreter.cycle_taking (interpreter : Interpreter) {session : Session} {id : TaskId}
    {rest : List TaskId} (ids : session.scheduler.queue.ids = id :: rest)
    (idle : id ∉ session.scheduler.active) :
    interpreter.cycle session =
      (do
        Act.note (.dequeued id)
        interpreter.step id >>= afterStep id : Act (Option (TaskId × StepStatus)))
      (session.taking rest) := by
  have front : session.scheduler.dequeue? = some (id, (session.taking rest).scheduler) :=
    Scheduler.dequeue?_cons ids
  have apart : (session.taking rest).scheduler.isActive id = false := decide_eq_false idle
  rw [cycle, Act.scheduler_bind, front]
  dsimp only
  rw [apart, if_neg Bool.false_ne_true, Act.updateScheduler_bind]
  refine congrFun (congrArg (Bind.bind (Act.note (.dequeued id))) ?_) _
  funext _
  refine congrArg (Bind.bind (interpreter.step id)) ?_
  funext status
  cases status <;> rfl

end CooperativeTasks
