import CooperativeTasks.Proofs.Timelessness

set_option autoImplicit false

/-! Steps and turns of the queue at two different times.

A step reads the clock and compares the reading with the times that its task has been given. There are
none, so the readings do not matter; and as no step is blocked, the scheduler never pauses. -/

namespace CooperativeTasks

open Session (Timeless)

variable {nesting : Nesting}

/-! ### Steps -/

theorem Task.Unhurried.statements {task : Task} (unhurried : task.Unhurried) :
    ∀ statement ∈ task.statements, statement.usesTimers = false := by
  intro statement member
  unfold Task.statements at member
  cases body : task.body with
  | none =>
      rw [body] at member
      cases member
  | some function =>
      rw [body] at member
      exact anyStatementUsesTimers_eq_false (unhurried.body function body) statement member

section Steps

variable {shallow deep : Interpreter} {id : TaskId}
  (exec : ∀ path statement, statement.usesTimers = false →
    Act.MirrorsAll (Timeless (nesting.stepping id)) (shallow.exec path statement)
      (deep.exec path statement))

include exec

theorem timeless_execInTask (task : Task) {statement : Stmt} (timeless : statement.usesTimers = false) :
    Act.MirrorsAll (Timeless (nesting.taking id)) (shallow.execInTask id task statement)
      (deep.execInTask id task statement) := by
  rw [Interpreter.execInTask_eq, Interpreter.execInTask_eq]
  apply timeless_executor
  intro session before
  refine .enclosed (fun first second outside => ?_) (exec _ statement timeless) ?_
  · exact outside.changed (Session.enteringTask id task)
      (fun unhurried => unhurried.enteringTask task) fun _ _ _ => rfl
  · intro result first second inside
    rw [Act.executor_bind, Act.executor_bind, inside.executor]
    refine .done trivial ?_
    exact inside.changed (Session.leavingTask id task session.executor)
      (fun unhurried => unhurried.leavingTask before.current task) fun _ _ _ => rfl

theorem timeless_runStatement (reading reading' : Nat) :
    Act.Mirrors (Timeless (nesting.taking id)) (· ≠ .blocked) (shallow.runStatement id reading)
      (deep.runStatement id reading') := by
  have completes (payload : Value) :
      Act.Mirrors (Timeless (nesting.taking id)) (· ≠ .blocked)
        (do
          Act.completeTask id payload
          return StepStatus.done)
        (do
          Act.completeTask id payload
          return StepStatus.done) :=
    .bind (timeless_completeTask id payload) fun _ _ => .pure StepStatus.noConfusion
  refine .bind (timeless_keepTimes Task.keepsTimes_start id) fun _ _ => ?_
  apply timeless_scheduler
  intro session settings unhurried
  rw [Scheduler.task?_paced]
  cases found : session.scheduler.task? id with
  | none => exact .pure StepStatus.noConfusion
  | some task =>
      obtain ⟨calm, _⟩ := unhurried.tasks id task found
      dsimp only
      cases present : task.statements[task.counter]? with
      | none => exact completes .void
      | some statement =>
          -- The statement sets no times, as none of the body does.
          have timeless := calm.statements statement (List.mem_of_getElem? present)
          refine .bind (timeless_keepTimes ?_ id) fun _ _ => ?_
          · exact ⟨fun _ => rfl, fun _ => rfl, fun _ => rfl, fun _ => rfl⟩
          refine .bind (timeless_count (fun _ => rfl) fun _ => rfl) fun _ _ => ?_
          refine .bind (timeless_note _ _) fun _ _ => ?_
          refine .bind (timeless_execInTask exec task timeless) fun left _ => ?_
          obtain ⟨outcome, scope, positions⟩ := left
          cases outcome with
          | ok value =>
              refine .bind (timeless_keepTimes ?_ id) fun _ _ => ?_
              · exact ⟨fun _ => rfl, fun _ => rfl, fun _ => rfl, fun _ => rfl⟩
              split
              · exact completes .void
              · exact .pure StepStatus.noConfusion
          | error signal =>
              cases signal with
              | suspend fromLoop =>
                  refine .bind (timeless_keepTimes ?_ id) fun _ _ => .pure StepStatus.noConfusion
                  exact ⟨fun _ => rfl, fun _ => rfl, fun _ => rfl, fun _ => rfl⟩
              | returning value =>
                  refine .bind (timeless_keepTimes ?_ id) fun _ _ => completes value
                  exact ⟨fun _ => rfl, fun _ => rfl, fun _ => rfl, fun _ => rfl⟩
              | breakLoop => exact .fail _
              | continueLoop => exact .fail _
              | fault cause => exact .fail _

theorem timeless_stepReady :
    Act.Mirrors (Timeless (nesting.taking id)) (· ≠ .blocked) (shallow.stepReady id)
      (deep.stepReady id) := by
  apply timeless_readClock
  intro now now'
  apply timeless_scheduler
  intro session settings unhurried
  rw [Scheduler.task?_paced]
  cases found : session.scheduler.task? id with
  | none => exact .pure StepStatus.noConfusion
  | some task =>
      obtain ⟨calm, _⟩ := unhurried.tasks id task found
      dsimp only
      rw [calm.awake, calm.endless]
      simp only [Option.any_none, Bool.false_eq_true, if_false]
      have wakes : Act.MirrorsAll (Timeless (nesting.taking id)) (Act.modifyTask id Interpreter.woken)
          (Act.modifyTask id Interpreter.woken) := by
        apply timeless_modifyTask
        · exact fun _ calm => ⟨rfl, calm.endless, calm.body⟩
        · exact fun _ => .inl rfl
      refine .bind wakes fun _ _ => ?_
      cases task.body with
      | some function => exact timeless_runStatement exec now now'
      | none =>
          refine .bind (timeless_completeTask id .void) fun _ _ => ?_
          split
          · exact .bind (timeless_note _ _) fun _ _ => .pure StepStatus.noConfusion
          · exact .pure StepStatus.noConfusion

theorem timeless_step (idle : id ∉ nesting.active) :
    Act.Mirrors (Timeless (nesting.taking id)) (· ≠ .blocked) (shallow.step id) (deep.step id) := by
  apply timeless_scheduler
  intro session settings unhurried
  rw [Scheduler.task?_paced]
  cases found : session.scheduler.task? id with
  | none => exact .pure StepStatus.noConfusion
  | some task =>
      dsimp only
      split
      · exact .pure StepStatus.noConfusion
      · have unmarked : task.waitingFor = none :=
          Classical.byContradiction fun marked =>
            idle (nesting.marked id ((unhurried.tasks id task found).2 marked))
        rw [unmarked]
        exact timeless_stepReady exec

end Steps

/-! ### Turns of the queue -/

theorem timeless_requeue {id : TaskId} (fresh : id ∉ nesting.taken) {first second : Session}
    (timeless : Timeless (nesting.taking id) first second) :
    Outcome.Mirrored (Timeless nesting) (fun _ => True) (Interpreter.requeue id first)
      (Interpreter.requeue id second) := by
  have queued := timeless.changed (Interpreter.requeueing id)
    (fun unhurried => unhurried.requeueing fresh) fun _ _ _ => rfl
  exact timeless_note (.requeued id) (.requeued id) _ _ queued

theorem timeless_afterTurn (swept : List TaskId) (id : TaskId) {status : StepStatus}
    (free : status ≠ .blocked) :
    Act.MirrorsAll (Timeless nesting) (Interpreter.afterTurn swept id status)
      (Interpreter.afterTurn swept id status) := by
  cases status with
  | blocked => exact absurd rfl free
  | pending => exact .pure trivial
  | done => exact .pure trivial

theorem timeless_afterStep {id : TaskId} (fresh : id ∉ nesting.taken) {status : StepStatus}
    (free : status ≠ .blocked) {first second : Session}
    (timeless : Timeless (nesting.taking id) first second) :
    Outcome.Mirrored (Timeless nesting) (fun turn => ∀ entry, turn = some entry → entry.2 ≠ .blocked)
      (Interpreter.afterStep id status first) (Interpreter.afterStep id status second) := by
  have ends (first second : Session) (after : Timeless nesting first second) :
      Outcome.Mirrored (Timeless nesting)
        (fun turn => ∀ entry : TaskId × StepStatus, turn = some entry → entry.2 ≠ .blocked)
        ((pure (some (id, status)) : Act _) first) ((pure (some (id, status)) : Act _) second) := by
    refine .done (fun entry same => ?_) after
    cases same
    exact free
  cases status with
  | blocked => exact absurd rfl free
  | pending =>
      exact (timeless_requeue fresh timeless).bind (fun _ _ after => after) fun _ _ => ends
  | done =>
      refine (timeless_finalize id _ _ timeless).bind (fun _ _ after => after.dropping) ?_
      exact fun _ _ first second after => ends first second after.dropping

section Turns

variable {shallow deep : Interpreter}
  (exec : ∀ id path statement, statement.usesTimers = false →
    Act.MirrorsAll (Timeless (nesting.stepping id)) (shallow.exec path statement)
      (deep.exec path statement))

include exec

theorem timeless_cycle :
    Act.Mirrors (Timeless nesting) (fun turn => ∀ entry, turn = some entry → entry.2 ≠ .blocked)
      shallow.cycle deep.cycle := by
  intro first second timeless
  have unhurried := timeless.unhurried
  obtain ⟨settings, paced⟩ := timeless.scheduler
  have queues : second.scheduler.queue = first.scheduler.queue := by
    rw [paced]
    rfl
  have actives : second.scheduler.active = first.scheduler.active := by
    rw [paced]
    rfl
  cases front : first.scheduler.queue.ids with
  | nil =>
      rw [shallow.cycle_empty front, deep.cycle_empty (queues ▸ front)]
      refine .done (fun entry impossible => ?_) timeless
      cases impossible
  | cons id rest =>
      -- The front of the queue has not been taken out by an enclosing turn, so that its step does not
      -- run and its task does not wait.
      obtain ⟨fresh, popped⟩ := unhurried.taking front
      have idle : id ∉ nesting.active := fun runs => fresh (nesting.stacked id runs)
      have apart : id ∉ first.scheduler.active := unhurried.active ▸ idle
      rw [shallow.cycle_taking front apart, deep.cycle_taking (queues ▸ front) (actives ▸ apart)]
      have taken := timeless.changed (Session.taking rest) (fun _ => popped) fun _ _ _ => rfl
      refine (timeless_note (.dequeued id) (.dequeued id) _ _ taken).bind
        (fun _ _ after => after.dropping) fun _ _ first second started => ?_
      refine (timeless_step (exec id) idle first second started).bind
        (fun _ _ after => after.dropping) fun status free first second after => ?_
      exact timeless_afterStep fresh free after

theorem timeless_runOneCycle :
    Act.MirrorsAll (Timeless nesting) shallow.runOneCycle deep.runOneCycle :=
  .bind (timeless_cycle exec) fun _ _ => .pure trivial

theorem timeless_turn (swept : List TaskId) :
    Act.MirrorsAll (Timeless nesting) (shallow.turn swept) (deep.turn swept) := by
  refine .bind (timeless_cycle exec) fun turned free => ?_
  cases turned with
  | none => exact .pure trivial
  | some entry =>
      exact .bind (timeless_afterTurn swept entry.1 (free entry rfl)) fun _ _ => .pure trivial

theorem timeless_run (turns : shallow.turns ≤ deep.turns) :
    Act.MirrorsAll (Timeless nesting) shallow.run deep.run := by
  apply timeless_scheduler
  intro session settings _
  refine .bind (timeless_note _ _) fun _ _ => ?_
  exact .bind (.iterate turns (timeless_turn exec) []) fun _ _ => timeless_note _ _

theorem timeless_runUntilComplete (turns : shallow.turns ≤ deep.turns) (id : TaskId) :
    Act.MirrorsAll (Timeless nesting) (shallow.runUntilComplete id) (deep.runUntilComplete id) := by
  apply Interpreter.mirrors_runUntilComplete (timeless_turn exec)
  · intro first second timeless
    obtain ⟨settings, paced⟩ := timeless.scheduler
    rw [paced, Scheduler.isFinished_paced]
  · exact turns
  · exact timeless_finalize id
  · exact timeless_note _ _

end Turns

end CooperativeTasks
