import CooperativeTasks.Proofs.Gates
import CooperativeTasks.Proofs.Reachability

set_option autoImplicit false

/-! When tasks execute statements, run out of time and wake up.

Of a whole execution: no statement of a task is executed before it is due. Of a single step: what
its task is kept by is all that decides what becomes of it without a statement being executed. -/

namespace CooperativeTasks

/-! ### Executions -/

theorem undertakeAll_punctual (depth : Nat) (errands : List Errand) {session : Session}
    (outside : session.scheduler.active = []) (punctual : session.Punctual) :
    ((interpreter depth).undertakeAll errands session).session.Punctual :=
  Session.punctual_invariant.undertakeAll depth errands outside punctual

theorem Session.punctual_start (settings : Settings) (clock : Clock) (budget : Option Nat) :
    { Session.start settings 0 with clock, budget }.Punctual :=
  ⟨fun _ _ _ _ recorded => (nomatch recorded), fun _ _ recorded => (nomatch recorded)⟩

theorem Session.Reachable.punctual {session : Session} (reachable : session.Reachable) :
    session.Punctual :=
  Session.punctual_invariant.reachable
    (fun settings tick => Session.punctual_start settings { tick } none) reachable

/-! ### Single steps -/

/-- The task has a statement to execute, and nothing keeps it from that now. -/
def Session.Ready (id : TaskId) (session : Session) : Prop :=
  ∃ task statement, session.scheduler.task? id = some task ∧
    task.statements[task.counter]? = some statement ∧
    task.Due session.scheduler session.clock.now

/-- A step that executes no statement can have ended the task in two ways: its deadline had passed,
or nothing kept it any more. -/
inductive Task.EndedAt (reading : Nat) (id : TaskId) (task : Task) : Option Value → Prop where
  | late (deadline : Nat) (set : task.deadline = some deadline) (passed : deadline ≤ reading) :
      EndedAt reading id task (some (timeoutError id))
  | through (timely : ∀ deadline, task.deadline = some deadline → reading < deadline)
      (awake : ∀ wakeAt, task.wakeAt = some wakeAt → wakeAt ≤ reading) :
      EndedAt reading id task (some .void)

theorem Task.EndedAt.ofSame {reading : Nat} {id : TaskId} {task other : Task}
    {result : Option Value} (ended : task.EndedAt reading id result)
    (deadline : other.deadline = task.deadline) (wakeAt : other.wakeAt = task.wakeAt) :
    other.EndedAt reading id result := by
  cases ended with
  | late limit set passed => exact .late limit (deadline.trans set) passed
  | through timely awake =>
      exact .through (fun limit set => timely limit (deadline.symm.trans set))
        fun wake set => awake wake (wakeAt.symm.trans set)

theorem Session.not_ready_of_bodyless {id : TaskId} {session : Session} {task : Task}
    (known : session.scheduler.task? id = some task) (bodyless : task.body = none) :
    ¬ session.Ready id := by
  rintro ⟨other, statement, same, present, _⟩
  cases known.symm.trans same
  unfold Task.statements at present
  rw [bodyless] at present
  cases present

section Steps

variable {id : TaskId} {session : Session} {task : Task}

theorem Session.absent_of_not_ready (closed : ¬ session.Ready id)
    (known : session.scheduler.task? id = some task) (unfinished : task.isFinished = false)
    (free : ∀ awaited, task.waitingFor = some awaited → session.scheduler.isFinished awaited = true)
    (timely : task.deadline.any (· ≤ session.clock.now) = false)
    (awake : task.wakeAt.any (session.clock.now < ·) = false) :
    task.statements[task.counter]? = none := by
  cases present : task.statements[task.counter]? with
  | none => rfl
  | some statement =>
      have due : task.Due session.scheduler session.clock.now :=
        ⟨unfinished, free, Task.timely timely, Task.awake awake⟩
      exact absurd ⟨task, statement, known, present, due⟩ closed

theorem Task.statements_start (task : Task) : task.start.statements = task.statements := by
  unfold Task.statements
  rw [(Task.KeepsTime.start task).body]

theorem Interpreter.runStatement_absent (known : session.scheduler.task? id = some task)
    (absent : task.statements[task.counter]? = none) (interpreter : Interpreter) (reading : Nat) :
    interpreter.runStatement id reading session =
      .done .done ((session.onTask id Task.start).onTask id (Task.complete .void)) := by
  have exhausted : task.start.statements[task.start.counter]? = none := by
    rw [Task.statements_start, (Task.KeepsTime.start task).counter]
    exact absent
  exact runStatement_exhausted (Session.task?_onTask known Task.start) exhausted

theorem Interpreter.stepReady_unready (known : session.scheduler.task? id = some task)
    (closed : task.deadline.any (· ≤ session.clock.now) = false →
      task.wakeAt.any (session.clock.now < ·) = false → task.statements[task.counter]? = none)
    (interpreter other : Interpreter) :
    interpreter.stepReady id session = other.stepReady id session := by
  cases late : task.deadline.any (· ≤ session.clock.now) with
  | true => rw [stepReady_overdue known late, stepReady_overdue known late]
  | false =>
      cases asleep : task.wakeAt.any (session.clock.now < ·) with
      | true => rw [stepReady_asleep known late asleep, stepReady_asleep known late asleep]
      | false =>
          cases body : task.body with
          | none =>
              rw [stepReady_bodyless known late asleep body,
                stepReady_bodyless known late asleep body]
          | some function =>
              have ticked : session.ticked.scheduler.task? id = some task := known
              have found := Session.task?_onTask ticked woken
              have absent := closed late asleep
              rw [stepReady_embodied known late asleep body,
                stepReady_embodied known late asleep body, runStatement_absent found absent,
                runStatement_absent found absent]

theorem Interpreter.step_unready (closed : ¬ session.Ready id) (interpreter other : Interpreter) :
    interpreter.step id session = other.step id session := by
  cases known : session.scheduler.task? id with
  | none => rw [step_unknown known, step_unknown known]
  | some task =>
      cases unfinished : task.isFinished with
      | true => rw [step_finished known unfinished, step_finished known unfinished]
      | false =>
          have absent := Session.absent_of_not_ready closed known unfinished
          cases mark : task.waitingFor with
          | none =>
              rw [step_free known unfinished mark, step_free known unfinished mark]
              refine stepReady_unready known (absent fun awaited waits => ?_) interpreter other
              rw [mark] at waits
              cases waits
          | some awaited =>
              cases ended : session.scheduler.isFinished awaited with
              | false =>
                  rw [step_waiting known unfinished mark ended, step_waiting known unfinished mark ended]
              | true =>
                  rw [step_freed known unfinished mark ended, step_freed known unfinished mark ended]
                  have found :=
                    Session.task?_onTask known fun task => { task with waitingFor := none }
                  refine stepReady_unready found (absent ?_) interpreter other
                  intro _ waits
                  rw [mark] at waits
                  cases waits
                  exact ended

theorem Interpreter.stepReady_late (known : session.scheduler.task? id = some task)
    (late : task.deadline.any (· ≤ session.clock.now) = true) (interpreter : Interpreter) :
    (interpreter.stepReady id session).session.scheduler.task? id =
        some (task.complete (timeoutError id)) ∧
      (interpreter.stepReady id session).session.journal = .timedOut id :: session.journal := by
  have impossible {goal : Prop} {other : Task} (same : session.scheduler.task? id = some other)
      (timely : other.deadline.any (· ≤ session.clock.now) = false) : goal := by
    cases known.symm.trans same
    rw [late] at timely
    cases timely
  refine interpreter.stepReady_elim (motive := fun outcome =>
    outcome.session.scheduler.task? id = some (task.complete (timeoutError id)) ∧
      outcome.session.journal = .timedOut id :: session.journal) ?_ ?_ ?_ ?_ ?_
  · intro gone
    rw [known] at gone
    cases gone
  · intro _ _ _ after noted
    have ended : after.scheduler.task? id = some (task.complete (timeoutError id)) := by
      rw [noted.scheduler]
      exact Session.task?_onTask (show session.ticked.scheduler.task? id = some task from known) _
    exact ⟨⟨ended, noted.journal⟩, ended, noted.journal⟩
  · exact fun _ same timely _ => impossible same timely
  · exact fun _ same timely _ _ => impossible same timely
  · exact fun _ same timely _ _ => impossible same timely

/-- A task whose deadline has passed is ended by its next step, unless that finds it waiting. -/
theorem Interpreter.step_late (known : session.scheduler.task? id = some task)
    (unfinished : task.isFinished = false)
    (free : ∀ awaited, task.waitingFor = some awaited → session.scheduler.isFinished awaited = true)
    {deadline : Nat} (set : task.deadline = some deadline) (passed : deadline ≤ session.clock.now)
    (interpreter : Interpreter) :
    (interpreter.step id session).session.scheduler.task? id =
        some (task.complete (timeoutError id)) ∧
      (interpreter.step id session).session.journal = .timedOut id :: session.journal := by
  have late : task.deadline.any (· ≤ session.clock.now) = true := by
    rw [set]
    exact decide_eq_true passed
  refine interpreter.step_elim (motive := fun outcome =>
    outcome.session.scheduler.task? id = some (task.complete (timeoutError id)) ∧
      outcome.session.journal = .timedOut id :: session.journal) ?_ ?_ ?_ ?_
  · intro finished
    rw [finished task known] at unfinished
    cases unfinished
  · intro _ same _ awaited waits blocked
    cases known.symm.trans same
    rw [free awaited waits] at blocked
    cases blocked
  · exact fun _ _ _ _ => stepReady_late known late interpreter
  · intro _ _ _ _ _ _
    exact stepReady_late (Session.task?_onTask known fun task => { task with waitingFor := none })
      late interpreter

theorem Interpreter.stepReady_endedAt (known : session.scheduler.task? id = some task)
    (unfinished : task.isFinished = false)
    (closed : task.deadline.any (· ≤ session.clock.now) = false →
      task.wakeAt.any (session.clock.now < ·) = false → task.statements[task.counter]? = none)
    (interpreter : Interpreter) :
    ∀ current, (interpreter.stepReady id session).session.scheduler.task? id = some current →
      current.isFinished = true → task.EndedAt session.clock.now id current.result := by
  have known' : session.ticked.scheduler.task? id = some task := known
  have found := Session.task?_onTask known' woken
  refine interpreter.stepReady_elim (motive := fun outcome =>
    ∀ current, outcome.session.scheduler.task? id = some current → current.isFinished = true →
      task.EndedAt session.clock.now id current.result) ?_ ?_ ?_ ?_ ?_
  · intro gone
    rw [known] at gone
    cases gone
  · intro other same late after noted
    cases known.symm.trans same
    have ended (current : Task) (after : after.scheduler.task? id = some current)
        (_ : current.isFinished = true) : task.EndedAt session.clock.now id current.result := by
      rw [noted.scheduler] at after
      cases (Session.task?_onTask known' (Task.complete (timeoutError id))).symm.trans after
      obtain ⟨deadline, set, passed⟩ := (Option.any_eq_true _ _).mp late
      exact .late deadline set (of_decide_eq_true passed)
    exact ⟨ended, ended⟩
  · intro _ _ _ _ current after finished
    cases known.symm.trans after
    rw [unfinished] at finished
    cases finished
  · intro other same timely awake _
    cases known.symm.trans same
    have completed := Session.task?_onTask found (Task.complete .void)
    refine ⟨fun current after _ => ?_, fun left noted => ?_⟩
    · cases completed.symm.trans after
      exact .through (Task.timely timely) (Task.awake awake)
    · have ended (current : Task) (after : left.scheduler.task? id = some current)
          (_ : current.isFinished = true) : task.EndedAt session.clock.now id current.result := by
        rw [noted.scheduler] at after
        cases completed.symm.trans after
        exact .through (Task.timely timely) (Task.awake awake)
      exact ⟨ended, ended⟩
  · intro other same timely awake _ current after _
    cases known.symm.trans same
    rw [runStatement_absent found (closed timely awake)] at after
    have started := Session.task?_onTask found Task.start
    have completed := Session.task?_onTask started (Task.complete .void)
    cases completed.symm.trans after
    exact .through (Task.timely timely) (Task.awake awake)

/-- How a step that executes no statement can have ended its task. -/
theorem Interpreter.step_endedAt (closed : ¬ session.Ready id)
    (known : session.scheduler.task? id = some task) (unfinished : task.isFinished = false)
    (interpreter : Interpreter) :
    ∀ current, (interpreter.step id session).session.scheduler.task? id = some current →
      current.isFinished = true → task.EndedAt session.clock.now id current.result := by
  have absent := Session.absent_of_not_ready closed known unfinished
  refine interpreter.step_elim (motive := fun outcome =>
    ∀ current, outcome.session.scheduler.task? id = some current → current.isFinished = true →
      task.EndedAt session.clock.now id current.result) ?_ ?_ ?_ ?_
  · intro finished
    rw [finished task known] at unfinished
    cases unfinished
  · intro _ _ _ _ _ _ after noted
    have waits (current : Task) (now : after.scheduler.task? id = some current)
        (finished : current.isFinished = true) :
        task.EndedAt session.clock.now id current.result := by
      rw [noted.scheduler] at now
      cases known.symm.trans now
      rw [unfinished] at finished
      cases finished
    exact ⟨waits, waits⟩
  · intro other same _ mark
    cases known.symm.trans same
    refine stepReady_endedAt known unfinished (absent fun awaited waits => ?_) interpreter
    rw [mark] at waits
    cases waits
  · intro other same _ awaited mark ended
    cases known.symm.trans same
    have found := Session.task?_onTask known fun task => { task with waitingFor := none }
    have free (other : TaskId) (waits : task.waitingFor = some other) :
        session.scheduler.isFinished other = true := by
      rw [mark] at waits
      cases waits
      exact ended
    intro current after finished
    have freed := stepReady_endedAt found unfinished (absent free) interpreter
    exact (freed current after finished).ofSame rfl rfl

end Steps

/-- Statements are executed when they are due. In every execution, however much time passes between
what is asked for and from one turn of the queue to the next, a statement is executed in a step of a
task that is in no other step, is unfinished, has neither run out of time nor is asleep by the
reading of the clock that the step has taken, and waits for no unfinished task. A step of a task that
is not ready executes nothing, whatever the interpreter: it ends the task in the one or the other way
or not at all. -/
theorem statements_run_when_due :
    (∀ session : Session, session.Reachable → session.Punctual) ∧
    (∀ (depth : Nat) (settings : Settings) (clock : Clock) (budget : Option Nat)
      (errands : List Errand),
      ((interpreter depth).undertakeAll errands
        { Session.start settings 0 with clock, budget }).session.Punctual) ∧
    ∀ (interpreter : Interpreter) (id : TaskId) (session : Session) (task : Task),
      session.scheduler.task? id = some task → task.isFinished = false →
      let late := (interpreter.step id session).session
      (task.body = none → ¬ session.Ready id) ∧
      (¬ session.Ready id →
        (∀ other : Interpreter, interpreter.step id session = other.step id session) ∧
        ∀ current, late.scheduler.task? id = some current → current.isFinished = true →
          task.EndedAt session.clock.now id current.result) ∧
      ∀ deadline, task.deadline = some deadline → deadline ≤ session.clock.now →
        (∀ awaited, task.waitingFor = some awaited →
          session.scheduler.isFinished awaited = true) →
        ¬ session.Ready id ∧
        late.scheduler.task? id = some (task.complete (timeoutError id)) ∧
        late.journal = .timedOut id :: session.journal := by
  refine ⟨fun _ reachable => reachable.punctual, ?_, ?_⟩
  · intro depth settings clock budget errands
    exact undertakeAll_punctual depth errands rfl (Session.punctual_start settings clock budget)
  · intro interpreter id session task known unfinished
    refine ⟨Session.not_ready_of_bodyless known, fun closed => ⟨?_, ?_⟩, ?_⟩
    · exact interpreter.step_unready closed
    · exact interpreter.step_endedAt closed known unfinished
    · intro deadline set passed free
      obtain ⟨ended, recorded⟩ := interpreter.step_late known unfinished free set passed
      refine ⟨?_, ended, recorded⟩
      rintro ⟨other, _, same, _, due⟩
      cases known.symm.trans same
      exact absurd (due.timely deadline set) (Nat.not_lt_of_le passed)

/-- The session in which a sleeping task without a body has run out of time already. -/
def overslept : Session :=
  let asleep := ((interpreter 0).request (.spawnTimer 5) (.start {} 0)).session
  ((interpreter 0).request (.timeout ⟨0⟩ 0) asleep).session

theorem statements_run_when_due_overslept :
    overslept.Punctual ∧ ∃ task, overslept.scheduler.task? ⟨0⟩ = some task ∧
      task.wakeAt = some 5000000 ∧
      ¬ overslept.Ready ⟨0⟩ ∧
      ((interpreter 3).step ⟨0⟩ overslept).session.scheduler.task? ⟨0⟩ =
        some (task.complete (timeoutError ⟨0⟩)) ∧
      task.EndedAt overslept.clock.now ⟨0⟩ (some (timeoutError ⟨0⟩)) := by
  have asleep := (Session.Reachable.start {} 0).requested rfl 0 (.spawnTimer 5)
  have reachable : overslept.Reachable := asleep.requested rfl 0 (.timeout ⟨0⟩ 0)
  obtain ⟨bodyless, unready, late⟩ :=
    statements_run_when_due.2.2 (interpreter 3) ⟨0⟩ overslept _ rfl rfl
  have closed := bodyless rfl
  obtain ⟨_, ended, _⟩ := late 0 rfl (Nat.le_refl 0) (fun _ waits => nomatch waits)
  refine ⟨statements_run_when_due.1 overslept reachable, _, rfl, rfl, closed, ended, ?_⟩
  exact (unready closed).2 _ ended rfl

end CooperativeTasks
