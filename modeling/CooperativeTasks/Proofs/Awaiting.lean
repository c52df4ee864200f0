import CooperativeTasks.Proofs.Reachability

set_option autoImplicit false

/-! What an await comes to.

An await drives the scheduler turn by turn until its task is finished or nothing can run. It ends
with the value of a finished task, with the fault of a step that one of its turns gave to some
task, or stalled; and it stalls only when every task that is still queued is running already. -/

namespace CooperativeTasks

variable {α σ : Type}

/-! ### Loops by their turns -/

/-- What a loop has come to after some of its turns. -/
inductive Act.Turned (action : σ → Act (Option σ)) (state : σ) (session : Session) :
    σ → Session → Prop where
  | start : Turned action state session state session
  | turn {earlier later : σ} {before after : Session}
      (turned : Turned action state session earlier before)
      (next : action earlier before = .done (some later) after) :
      Turned action state session later after

theorem Act.Turned.after {action : σ → Act (Option σ)} {state next last : σ}
    {session between reached : Session} (first : action state session = .done (some next) between)
    (turned : Turned action next between last reached) :
    Turned action state session last reached := by
  induction turned with
  | start => exact .turn .start first
  | turn _ step ih => exact .turn ih step

/-- What is known of an outcome: of a value that is returned and of a signal that is raised. -/
def Outcome.Meets (returns : α → Session → Prop) (raises : Signal → Session → Prop) :
    Outcome α → Prop
  | .done value after => returns value after
  | .raised signal after => raises signal after
  | .halted _ => True

/-- A loop is brought to its end, of whatever kind, by the last of its turns. -/
theorem Act.iterate_meets (turns : Nat) (action : σ → Act (Option σ)) (state : σ)
    (session : Session) :
    (iterate turns action state session).Meets
      (fun _ after => ∃ last reached, Turned action state session last reached ∧
        action last reached = .done none after)
      fun signal after => ∃ last reached, Turned action state session last reached ∧
        action last reached = .raised signal after := by
  induction turns generalizing state session with
  | zero => trivial
  | succ turns ih =>
      rw [iterate]
      cases run : action state session with
      | halted moment => trivial
      | raised signal after => exact ⟨state, session, .start, run⟩
      | done next after =>
          cases next with
          | none => exact ⟨state, session, .start, run⟩
          | some next =>
              have rest := ih next after
              dsimp only
              cases ended : iterate turns action next after with
              | halted moment => trivial
              | done value finish =>
                  rw [ended] at rest
                  obtain ⟨last, reached, turned, stopped⟩ := rest
                  exact ⟨last, reached, turned.after run, stopped⟩
              | raised signal finish =>
                  rw [ended] at rest
                  obtain ⟨last, reached, turned, stopped⟩ := rest
                  exact ⟨last, reached, turned.after run, stopped⟩

/-! ### Turns of the queue -/

theorem Scheduler.isFinished_eq {first second : Scheduler} {id : TaskId}
    (same : second.progress? id = first.progress? id) :
    second.isFinished id = first.isFinished id := by
  unfold Scheduler.progress? at same
  unfold Scheduler.isFinished
  cases before : first.task? id with
  | none =>
      rw [before] at same
      rw [Option.map_eq_none_iff.mp same]
  | some task =>
      rw [before] at same
      obtain ⟨later, found, unchanged⟩ := Option.map_eq_some_iff.mp same
      rw [found]
      exact congrArg Task.Progress.isFinished unchanged

namespace Interpreter

variable (interpreter : Interpreter)

/-- The task at the front of the queue is given a step, and the step ends with a signal. -/
def StepRaises (session : Session) (signal : Signal) (left : Session) : Prop :=
  ∃ id remaining popped, session.scheduler.dequeue? = some (id, remaining) ∧
    remaining.isActive id = false ∧
    { session with scheduler := remaining }.Noted (.dequeued id) popped ∧
    interpreter.step id popped = .raised signal left

theorem step_raises_faults (id : TaskId) (session : Session) :
    (interpreter.step id session).Meets (fun _ _ => True)
      fun signal _ => ∃ cause, signal = .fault cause := by
  have ready (start : Session) : (interpreter.stepReady id start).Meets (fun _ _ => True)
      fun signal _ => ∃ cause, signal = .fault cause := by
    refine interpreter.stepReady_elim (fun _ => trivial) (fun _ _ _ _ _ => ⟨trivial, trivial⟩)
      (fun _ _ _ _ => trivial) (fun _ _ _ _ _ => ⟨trivial, fun _ _ => ⟨trivial, trivial⟩⟩) ?_
    intro _ _ _ _ _
    refine interpreter.runStatement_elim (fun _ => trivial) (fun _ _ _ => trivial)
      (fun _ _ _ _ => trivial) ?_
    intro task _ statement _ noted _
    unfold stepping
    rcases stepEnding_cases id task noted.executor
        (interpreter.exec [.item task.counter] statement (noted.enteringTask id task)) with
      ⟨_, _, ended⟩ | ⟨signal, _, ended⟩ | ⟨_, _, _, _, _, _, ended, _⟩
    · rw [ended]
      trivial
    · rw [ended]
      exact ⟨signal.toFault, rfl⟩
    · rw [ended]
      trivial
  exact interpreter.step_elim (fun _ => trivial) (fun _ _ _ _ _ _ _ _ => ⟨trivial, trivial⟩)
    (fun _ _ _ _ => ready session) (fun _ _ _ _ _ _ => ready _)

theorem cycle_meets (session : Session) :
    (interpreter.cycle session).Meets
      (fun result after => result = none → after.scheduler.onlyActiveQueued = true)
      (interpreter.StepRaises session) := by
  rw [cycle, Act.scheduler_bind]
  cases front : session.scheduler.dequeue? with
  | none =>
      intro _
      -- An empty queue holds nothing but running tasks.
      have empty : session.scheduler.queue.ids = [] := by
        cases ids : session.scheduler.queue.ids with
        | nil => rfl
        | cons first rest =>
            rw [Scheduler.dequeue?_cons ids] at front
            cases front
      unfold Scheduler.onlyActiveQueued
      rw [empty]
      rfl
  | some entry =>
      obtain ⟨id, remaining⟩ := entry
      dsimp only
      rw [Act.updateScheduler_bind]
      refine Act.note_bind_elim (fun popped noted => ?_) fun _ _ => trivial
      cases running : remaining.isActive id with
      | true =>
          rw [if_pos rfl]
          refine Act.note_bind_elim (fun requeued _ => ?_) fun _ _ => trivial
          rw [Act.scheduler_bind]
          cases stuck : requeued.scheduler.onlyActiveQueued with
          | true => exact fun _ => stuck
          | false =>
              intro impossible
              cases impossible
      | false =>
          rw [if_neg Bool.false_ne_true]
          refine Act.bind_elim (fun status left _ => ?_) (fun signal left stepped => ?_)
            fun _ _ => trivial
          · cases status with
            | done =>
                obtain ⟨after, _, ended⟩ := Act.Publishes.finalize id left
                dsimp only
                rw [Act.bind_apply]
                rcases ended with ended | ended
                · rw [ended]
                  intro impossible
                  cases impossible
                · rw [ended]
                  trivial
            | pending =>
                refine Act.note_bind_elim (fun _ _ impossible => ?_) fun _ _ => trivial
                cases impossible
            | blocked =>
                refine Act.note_bind_elim (fun _ _ impossible => ?_) fun _ _ => trivial
                cases impossible
          · exact ⟨id, remaining, popped, front, running, noted, stepped⟩

theorem turn_meets (swept : List TaskId) (session : Session) :
    (interpreter.turn swept session).Meets
      (fun more after => more = none → after.scheduler.onlyActiveQueued = true)
      (interpreter.StepRaises session) := by
  rw [turn]
  have cycled := interpreter.cycle_meets session
  refine Act.bind_elim (fun result after run => ?_) (fun signal left run => ?_) fun _ _ => trivial
  · rw [run] at cycled
    cases result with
    | none => exact fun _ => cycled rfl
    | some entry =>
        -- What follows a turn raises nothing and always goes on.
        obtain ⟨next, status⟩ := entry
        have goesOn : (afterTurn swept next status after).Meets (fun _ _ => True)
            fun _ _ => False := by
          cases status with
          | pending => trivial
          | done => trivial
          | blocked =>
              rw [afterTurn, Act.scheduler_bind]
              split
              · exact Act.note_bind_elim (fun _ _ => trivial) fun _ _ => trivial
              · trivial
        refine Act.bind_elim (fun _ _ _ impossible => nomatch impossible)
          (fun signal left raised => ?_) fun _ _ => trivial
        rw [raised] at goesOn
        exact goesOn.elim
  · rw [run] at cycled
    exact cycled

/-- Driving all tasks stops only when nothing can run, unless a step on the way has faulted. -/
theorem run_meets (session : Session) :
    (interpreter.run session).Meets
      (fun _ after => after.scheduler.onlyActiveQueued = true)
      fun signal _ => ∃ cause, signal = .fault cause := by
  rw [run, Act.scheduler_bind]
  refine Act.note_bind_elim (fun noted _ => ?_) fun _ _ => trivial
  have driven := Act.iterate_meets interpreter.turns interpreter.turn [] noted
  refine Act.bind_elim (fun _ after ended => ?_) (fun signal left ended => ?_) fun _ _ => trivial
  · rw [ended] at driven
    obtain ⟨swept, between, _, last⟩ := driven
    have stopped := interpreter.turn_meets swept between
    rw [last] at stopped
    refine Act.note_elim (fun drained same => ?_) fun _ _ => trivial
    have stuck : after.scheduler.onlyActiveQueued = true := stopped rfl
    rw [← same.scheduler] at stuck
    exact stuck
  · rw [ended] at driven
    obtain ⟨swept, between, _, last⟩ := driven
    have raised := interpreter.turn_meets swept between
    rw [last] at raised
    obtain ⟨id, _, popped, _, _, _, stepped⟩ := raised
    have faults := interpreter.step_raises_faults id popped
    rw [stepped] at faults
    exact faults

/-- One of the turns of a drive towards a task has given a step that ended in a fault. -/
def DriveFaults (id : TaskId) (start : Session) (cause : Fault) (left : Session) : Prop :=
  ∃ swept between, Act.Turned (interpreter.turnUntil id) [] start swept between ∧
    between.scheduler.isFinished id = false ∧ interpreter.StepRaises between (.fault cause) left

theorem turnUntil_meets (id : TaskId) (swept : List TaskId) (session : Session) :
    (interpreter.turnUntil id swept session).Meets
      (fun more after => more = none →
        after.scheduler.isFinished id = true ∨ after.scheduler.onlyActiveQueued = true)
      fun signal left => session.scheduler.isFinished id = false ∧
        interpreter.StepRaises session signal left := by
  rw [turnUntil, Act.scheduler_bind]
  cases finished : session.scheduler.isFinished id with
  | true => exact fun _ => .inl finished
  | false =>
      rw [if_neg Bool.false_ne_true]
      have turned := interpreter.turn_meets swept session
      generalize interpreter.turn swept session = outcome at turned ⊢
      cases outcome with
      | done more after => exact fun none => .inr (turned none)
      | raised signal left => exact ⟨rfl, turned⟩
      | halted moment => trivial

/-- A drive towards a task leaves it finished or leaves nothing that could run, unless one of the
steps on the way has faulted. -/
theorem runUntilComplete_meets (id : TaskId) (session : Session) :
    (interpreter.runUntilComplete id session).Meets
      (fun _ after => after.scheduler.isFinished id = true ∨
        after.scheduler.onlyActiveQueued = true)
      fun signal left => ∃ cause, signal = .fault cause ∧
        interpreter.DriveFaults id session cause left := by
  unfold runUntilComplete
  have driven := Act.iterate_meets interpreter.turns (interpreter.turnUntil id) [] session
  refine Act.bind_elim (fun _ after ended => ?_) (fun signal left ended => ?_) fun _ _ => trivial
  · rw [ended] at driven
    obtain ⟨swept, between, _, last⟩ := driven
    have stopped := interpreter.turnUntil_meets id swept between
    rw [last] at stopped
    rw [Act.scheduler_bind]
    cases finished : after.scheduler.isFinished id with
    | true =>
        obtain ⟨later, published, outcome⟩ := Act.Publishes.finalize id after
        rw [if_pos rfl]
        rcases outcome with outcome | outcome
        · rw [outcome]
          exact .inl ((Scheduler.isFinished_eq (published.progress id)).trans finished)
        · rw [outcome]
          trivial
    | false =>
        rw [if_neg Bool.false_ne_true]
        refine Act.note_elim (fun noted same => ?_) fun _ _ => trivial
        have stuck := (stopped rfl).resolve_left (by rw [finished]; exact Bool.false_ne_true)
        rw [← same.scheduler] at stuck
        exact .inr stuck
  · rw [ended] at driven
    obtain ⟨swept, between, turned, last⟩ := driven
    have raised := interpreter.turnUntil_meets id swept between
    rw [last] at raised
    obtain ⟨unfinished, next, remaining, popped, front, idle, noted, stepped⟩ := raised
    have faults := interpreter.step_raises_faults next popped
    rw [stepped] at faults
    obtain ⟨cause, rfl⟩ := faults
    exact ⟨cause, rfl, swept, between, turned, unfinished, next, remaining, popped, front, idle,
      noted, stepped⟩

/-! ### Awaits -/

/-- The session in which the drive of an await starts: the running task, if there is one, is
marked. -/
def AwaitStarts (id : TaskId) (before start : Session) : Prop :=
  ∃ noted, before.Noted (.awaiting id before.executor.currentTask) noted ∧
    start = noted.awaitedBy before.executor.currentTask (some id)

/-- The running task, if there is one, does not wait for anything. -/
def RunningUnmarked (before after : Session) : Prop :=
  ∀ waiter, before.executor.currentTask = some waiter →
    ∀ task, after.scheduler.task? waiter = some task → task.waitingFor = none

theorem awaitTask_meets (id : TaskId) (session : Session) :
    (interpreter.awaitTask id session).Meets
      (fun _ after => RunningUnmarked session after ∧
        (after.scheduler.isFinished id = true ∨ after.scheduler.onlyActiveQueued = true))
      fun signal after => RunningUnmarked session after ∧ ∃ cause start left,
        signal = .fault cause ∧ AwaitStarts id session start ∧
          interpreter.DriveFaults id start cause left := by
  have unmarked {left after : Session}
      (ended : (left.awaitedBy session.executor.currentTask none).Noted
        (.awaitEnded id session.executor.currentTask) after) : RunningUnmarked session after := by
    intro waiter current task found
    rw [ended.scheduler, current] at found
    change (left.scheduler.modifyTask waiter _).task? waiter = some task at found
    rw [Scheduler.task?_modifyTask_self] at found
    obtain ⟨before, _, rfl⟩ := Option.map_eq_some_iff.mp found
    rfl
  have alike {left after : Session}
      (ended : (left.awaitedBy session.executor.currentTask none).Noted
        (.awaitEnded id session.executor.currentTask) after) :
      left.scheduler.Alike after.scheduler := by
    rw [ended.scheduler]
    cases session.executor.currentTask with
    | none => exact .refl _
    | some waiter => exact .modifyTask (TaskMark.wait none).progress waiter left.scheduler
  rw [awaitTask_eq]
  refine Act.awaiting_elim (fun _ _ => trivial) (fun _ _ _ _ => trivial) ?_ ?_
  · intro noted same left run after ended
    have driven := interpreter.runUntilComplete_meets id
      (noted.awaitedBy session.executor.currentTask (some id))
    rw [run] at driven
    refine ⟨⟨unmarked ended, ?_⟩, trivial⟩
    rcases driven with finished | stuck
    · exact .inl ((Scheduler.isFinished_eq ((alike ended).progress id)).trans finished)
    · refine .inr ?_
      unfold Scheduler.onlyActiveQueued Scheduler.isActive
      rw [(alike ended).queue, (alike ended).active]
      exact stuck
  · intro noted same signal left run after ended
    have driven := interpreter.runUntilComplete_meets id
      (noted.awaitedBy session.executor.currentTask (some id))
    rw [run] at driven
    obtain ⟨cause, rfl, faults⟩ := driven
    exact ⟨⟨unmarked ended, cause, _, left, rfl, ⟨noted, same, rfl⟩, faults⟩, trivial⟩

theorem slotOf_eq {id : TaskId} {task : Task} {session : Session}
    (consistent : session.scheduler.Consistent) (found : session.scheduler.task? id = some task) :
    slotOf id session =
      if task.isFinished then .done task.future.value session
      else .raised (.fault (.awaitStalled id)) session := by
  have ready : task.future.isReady = task.isFinished := by
    refine (consistent id task.progress ?_).ready
    unfold Scheduler.progress?
    rw [found]
    rfl
  rw [slotOf, Act.scheduler_bind, found]
  dsimp only
  rw [ready]
  cases task.isFinished <;> rfl

theorem awaitFuture_eq {future : Value} {id : TaskId} {task : Task} {session : Session}
    (carries : Future.taskOf? future = some id) (found : session.scheduler.task? id = some task) :
    interpreter.awaitFuture future session =
      if task.isFinished then slotOf id session
      else (do
        interpreter.awaitTask id
        slotOf id) session := by
  unfold awaitFuture
  rw [carries]
  dsimp only
  rw [Act.scheduler_bind, found]
  dsimp only
  cases task.isFinished <;> rfl

end Interpreter

/-- Awaiting an unfinished task: it is finished afterwards and its value is returned, it is not
and nobody can run, or a step on the way has faulted. Whichever it is, nobody is marked for it. -/
theorem awaitUnfinished_meets (depth : Nat) {id : TaskId} {task : Task} {session : Session}
    (consistent : session.scheduler.Consistent) (found : session.scheduler.task? id = some task) :
    ((do
        (interpreter depth).awaitTask id
        Interpreter.slotOf id : Act Value) session).Meets
      (fun value after => Interpreter.RunningUnmarked session after ∧
        ∃ awaited, after.scheduler.task? id = some awaited ∧ awaited.isFinished = true ∧
          value = awaited.future.value)
      fun signal after => Interpreter.RunningUnmarked session after ∧
        ((signal = .fault (.awaitStalled id) ∧ after.scheduler.Unfinished id ∧
            ∀ queued ∈ after.scheduler.queue.ids, queued ∈ after.scheduler.active) ∨
          ∃ cause start left, signal = .fault cause ∧ Interpreter.AwaitStarts id session start ∧
            (interpreter depth).DriveFaults id start cause left) := by
  have awaited := (interpreter depth).awaitTask_meets id session
  have deepens := (interpreter_deepens (Nat.le_refl depth)).awaitTask id
  have matures := ((life_upholds none).keeps deepens session.scheduler.active).along session rfl
  refine Act.bind_elim (fun _ after run => ?_) (fun signal after run => ?_) fun _ _ => trivial
  · rw [run] at awaited matures
    obtain ⟨unmarked, ended⟩ := awaited
    have start : session.scheduler.progress? id = some task.progress := by
      unfold Scheduler.progress?
      rw [found]
      rfl
    obtain ⟨_, kept, _⟩ := matures.1 id _ start
    obtain ⟨later, here, _⟩ := Option.map_eq_some_iff.mp kept
    have present : after.scheduler.task? id = some later := here
    have steady : after.scheduler.Consistent := matures.2 consistent
    rw [Interpreter.slotOf_eq steady present]
    cases finished : later.isFinished with
    | true => exact ⟨unmarked, later, present, finished, rfl⟩
    | false =>
        refine ⟨unmarked, .inl ⟨rfl, ⟨later, present, finished⟩, ?_⟩⟩
        have unfinished : after.scheduler.isFinished id ≠ true := by
          unfold Scheduler.isFinished
          rw [present]
          dsimp only
          rw [finished]
          exact Bool.false_ne_true
        have stuck := List.all_eq_true.mp (ended.resolve_left unfinished)
        exact fun queued member => of_decide_eq_true (stuck queued member)
  · rw [run] at awaited
    exact ⟨awaited.1, .inr awaited.2⟩

/-- An await whose operand is the future of a registered task returns the value of that task's
slot, and only once the task is finished. It stalls only while the task is unfinished and all that
is queued is running; any other fault is that of a step it has driven. A finished task costs it
nothing, and an unfinished one leaves no mark on the task that awaits. -/
theorem await_is_sound {depth : Nat} {session evaluated : Session} {operand : Expr} {future : Value}
    {id : TaskId} {task : Task} (reachable : session.Reachable)
    (operandEnded : (interpreter depth).eval operand session = .done future evaluated)
    (carries : Future.taskOf? future = some id)
    (registered : evaluated.scheduler.task? id = some task) :
    let outcome := (interpreter (depth + 1)).eval (.await operand) session
    (∀ value after, outcome = .done value after →
      ∃ awaited, after.scheduler.task? id = some awaited ∧ awaited.isFinished = true ∧
        value = awaited.future.value) ∧
    (∀ signal after, outcome = .raised signal after →
      (signal = .fault (.awaitStalled id) ∧ after.scheduler.Unfinished id ∧
          ∀ queued ∈ after.scheduler.queue.ids, queued ∈ after.scheduler.active) ∨
        ∃ cause start left, signal = .fault cause ∧ Interpreter.AwaitStarts id evaluated start ∧
          (interpreter depth).DriveFaults id start cause left) ∧
    (task.isFinished = true → outcome = .done task.future.value evaluated) ∧
    (task.isFinished = false → ∀ result, outcome.result? = some result →
      Interpreter.RunningUnmarked evaluated outcome.session) := by
  intro outcome
  have consistent : evaluated.scheduler.Consistent := by
    have reached := (reachable.evaluated depth operand).consistent
    rw [operandEnded] at reached
    exact reached
  have awaits : outcome = (interpreter depth).awaitFuture future evaluated := by
    change ((interpreter depth).eval operand >>= (interpreter depth).awaitFuture) session = _
    rw [Act.bind_apply, operandEnded]
  rw [Interpreter.awaitFuture_eq _ carries registered] at awaits
  -- A finished task is not driven at all. Otherwise the slot is read after the drive, if that has
  -- ended.
  cases finished : task.isFinished with
  | true =>
      rw [finished, if_pos rfl, Interpreter.slotOf_eq consistent registered, finished] at awaits
      refine ⟨?_, ?_, fun _ => awaits, fun impossible => nomatch impossible⟩
      · intro value after ended
        rw [awaits] at ended
        cases ended
        exact ⟨task, registered, finished, rfl⟩
      · intro signal after ended
        rw [awaits] at ended
        cases ended
  | false =>
      rw [finished, if_neg Bool.false_ne_true] at awaits
      have meets := awaitUnfinished_meets depth consistent registered
      rw [← awaits] at meets
      refine ⟨?_, ?_, fun impossible => (nomatch impossible), ?_⟩
      · intro value after ended
        rw [ended] at meets
        exact meets.2
      · intro signal after ended
        rw [ended] at meets
        exact meets.2
      · intro _ result ended
        cases reached : outcome with
        | done value after =>
            rw [reached] at meets
            exact meets.1
        | raised signal after =>
            rw [reached] at meets
            exact meets.1
        | halted moment =>
            rw [reached] at ended
            cases ended

def twoSteps : Program where
  structs := []
  main := []
  functions :=
    [{ name := "twoSteps", params := [], body := [.yield, .returning (some (.lit (.int 5)))],
       isAsync := true, owner := none }]

theorem await_is_sound_twoSteps :
    ∃ after awaited,
      (interpreter 8).eval (.await (.call "twoSteps" []))
          ((interpreter 0).request (.load twoSteps) (.start {} 0)).session =
        .done (.int 5) after ∧
      after.scheduler.task? ⟨0⟩ = some awaited ∧ awaited.isFinished = true ∧
      awaited.future.value = .int 5 := by
  have reachable := (Session.Reachable.start {} 0).requested rfl 0 (.load twoSteps)
  have sound := @await_is_sound 7 _ _ (.call "twoSteps" []) _ ⟨0⟩ _ reachable rfl rfl rfl
  obtain ⟨awaited, found, finished, value⟩ := sound.1 (.int 5) _ rfl
  exact ⟨_, awaited, rfl, found, finished, value.symm⟩

end CooperativeTasks
