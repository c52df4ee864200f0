import CooperativeTasks.Proofs.DueSteps

set_option autoImplicit false

/-! Sleeping tasks that have a deadline.

A step sees one reading of the clock. When the first reading at which anything is due comes after
both moments, the reading does not tell which of them was first: the deadline is looked at before
the wake time is, so that the deadline ends the task even when it was the later of the two. -/

namespace CooperativeTasks

/-- Steps of one task, one after the other, and what the clock showed when each of them was taken,
oldest first. In between anything may happen that leaves alone what the steps look at; the clock may
be moved by any amount. -/
inductive StepsOf (interpreter : Interpreter) (id : TaskId) (first : Session) :
    List Nat → Session → Prop where
  | start : StepsOf interpreter id first [] first
  | between {readings : List Nat} {session after : Session}
      (steps : StepsOf interpreter id first readings session)
      (keeps : ∀ task, session.scheduler.task? id = some task →
        ∃ current, after.scheduler.task? id = some current ∧ task.KeepsTime current) :
      StepsOf interpreter id first readings after
  | step {readings : List Nat} {session : Session}
      (steps : StepsOf interpreter id first readings session) :
      StepsOf interpreter id first (readings ++ [session.clock.now])
        (interpreter.step id session).session

/-- The first reading at which one of the two moments has come. -/
def firstDue? (wakeAt deadline : Nat) (readings : List Nat) : Option Nat :=
  readings.find? fun reading => decide (wakeAt ≤ reading) || decide (deadline ≤ reading)

/-- A task without a body that sleeps, with nothing to wait for but its two moments. -/
structure Task.Racing (wakeAt deadline : Nat) (task : Task) : Prop where
  bodyless : task.body = none
  sleeping : task.state = .sleeping
  asleep : task.wakeAt = some wakeAt
  limited : task.deadline = some deadline

/-- What has become of such a task, given the first reading at which it was due. -/
def Task.RacedTo (id : TaskId) (wakeAt deadline : Nat) (task : Task) : Option Nat → Prop
  | none => task.Racing wakeAt deadline
  | some due => task.isFinished = true ∧
      task.result = some (if deadline ≤ due then timeoutError id else .void)

/-! ### States -/

namespace Task

variable {task : Task}

theorem unfinished_of_sleeping (sleeping : task.state = .sleeping) : task.isFinished = false := by
  unfold state at sleeping
  cases finished : task.isFinished with
  | false => rfl
  | true => simp [finished] at sleeping

theorem free_of_sleeping (sleeping : task.state = .sleeping) : task.waitingFor = none := by
  have unfinished := unfinished_of_sleeping sleeping
  unfold state at sleeping
  cases mark : task.waitingFor with
  | none => rfl
  | some awaited => simp [unfinished, mark] at sleeping

theorem sleeping_of_asleep {wakeAt : Nat} (unfinished : task.isFinished = false)
    (free : task.waitingFor = none) (asleep : task.wakeAt = some wakeAt) :
    task.state = .sleeping := by
  simp [state, unfinished, free, asleep]

theorem KeepsTime.racing {current : Task} {wakeAt deadline : Nat}
    (keeps : task.KeepsTime current) (racing : task.Racing wakeAt deadline) :
    current.Racing wakeAt deadline where
  bodyless := keeps.body.trans racing.bodyless
  sleeping := by
    have unfinished := keeps.isFinished.trans (unfinished_of_sleeping racing.sleeping)
    have free : current.waitingFor = none :=
      keeps.waits.elim (·.trans (free_of_sleeping racing.sleeping)) fun free => free
    exact sleeping_of_asleep unfinished free (keeps.wakeAt.trans racing.asleep)
  asleep := keeps.wakeAt.trans racing.asleep
  limited := keeps.deadline.trans racing.limited

theorem KeepsTime.racedTo {current : Task} {id : TaskId} {wakeAt deadline : Nat}
    {due : Option Nat} (keeps : task.KeepsTime current)
    (raced : task.RacedTo id wakeAt deadline due) : current.RacedTo id wakeAt deadline due := by
  cases due with
  | none => exact keeps.racing raced
  | some due => exact ⟨keeps.isFinished.trans raced.1, keeps.result.trans raced.2⟩

end Task

/-! ### One step -/

theorem firstDue?_append (wakeAt deadline : Nat) (earlier later : List Nat) :
    firstDue? wakeAt deadline (earlier ++ later) =
      (firstDue? wakeAt deadline earlier).or (firstDue? wakeAt deadline later) := by
  simp [firstDue?, List.find?_append]

theorem firstDue?_of_early {wakeAt deadline reading : Nat} (sleeps : reading < wakeAt)
    (timely : reading < deadline) : firstDue? wakeAt deadline [reading] = none := by
  simp [firstDue?, Nat.not_le_of_lt sleeps, Nat.not_le_of_lt timely]

theorem firstDue?_of_due {wakeAt deadline reading : Nat}
    (due : wakeAt ≤ reading ∨ deadline ≤ reading) :
    firstDue? wakeAt deadline [reading] = some reading := by
  rcases due with woken | late
  · simp [firstDue?, woken]
  · simp [firstDue?, late]

theorem firstDue?_due {wakeAt deadline due : Nat} {readings : List Nat}
    (first : firstDue? wakeAt deadline readings = some due) : wakeAt ≤ due ∨ deadline ≤ due := by
  have passes := List.find?_some first
  simpa using passes

section Steps

variable {id : TaskId} {session : Session} {task : Task} {wakeAt deadline : Nat}

/-- A step at or after the deadline ends the task with an error, one at or after nothing but the
wake time ends it without, and an earlier one leaves it as it is. -/
theorem Interpreter.stepReady_racing (known : session.scheduler.task? id = some task)
    (racing : task.Racing wakeAt deadline) (interpreter : Interpreter) :
    ∃ current, (interpreter.stepReady id session).session.scheduler.task? id = some current ∧
      current.RacedTo id wakeAt deadline (firstDue? wakeAt deadline [session.clock.now]) := by
  have known' : session.ticked.scheduler.task? id = some task := known
  -- The deadline is looked at before the wake time, so at or after both of them the timer fails.
  apply interpreter.stepReady_elim (motive := fun outcome => ∃ current,
    outcome.session.scheduler.task? id = some current ∧
      current.RacedTo id wakeAt deadline (firstDue? wakeAt deadline [session.clock.now]))
  case gone =>
    intro gone
    rw [known] at gone
    cases gone
  case expired =>
    intro other same late after noted
    cases known.symm.trans same
    have passed : deadline ≤ session.clock.now := by simpa [racing.limited] using late
    have ended : after.scheduler.task? id = some (task.complete (timeoutError id)) := by
      rw [noted.scheduler]
      exact Session.task?_onTask known' (Task.complete (timeoutError id))
    rw [firstDue?_of_due (.inr passed)]
    have raced : (task.complete (timeoutError id)).RacedTo id wakeAt deadline
        (some session.clock.now) := ⟨rfl, by rw [if_pos passed]; rfl⟩
    exact ⟨⟨_, ended, raced⟩, ⟨_, ended, raced⟩⟩
  case asleep =>
    intro other same timely asleep
    cases known.symm.trans same
    have before : session.clock.now < deadline := by simpa [racing.limited] using timely
    have sleeps : session.clock.now < wakeAt := by simpa [racing.asleep] using asleep
    rw [firstDue?_of_early sleeps before]
    exact ⟨task, known, racing⟩
  case bodyless =>
    intro other same timely awake _
    cases known.symm.trans same
    have before : session.clock.now < deadline := by simpa [racing.limited] using timely
    have due : wakeAt ≤ session.clock.now := by simpa [racing.asleep] using awake
    have ended := Session.task?_onTask (Session.task?_onTask known' woken) (Task.complete .void)
    rw [firstDue?_of_due (.inl due)]
    have raced : (Task.complete .void (woken task)).RacedTo id wakeAt deadline
        (some session.clock.now) := ⟨rfl, by rw [if_neg (Nat.not_le_of_lt before)]; rfl⟩
    refine ⟨⟨_, ended, raced⟩, fun after noted => ?_⟩
    have recorded : after.scheduler.task? id = some (Task.complete .void (woken task)) := by
      rw [noted.scheduler]
      exact ended
    exact ⟨⟨_, recorded, raced⟩, ⟨_, recorded, raced⟩⟩
  case ready =>
    intro other same _ _ present
    cases known.symm.trans same
    rw [racing.bodyless] at present
    cases present

theorem Interpreter.step_racing (known : session.scheduler.task? id = some task)
    (racing : task.Racing wakeAt deadline) (interpreter : Interpreter) :
    ∃ current, (interpreter.step id session).session.scheduler.task? id = some current ∧
      current.RacedTo id wakeAt deadline (firstDue? wakeAt deadline [session.clock.now]) := by
  have unfinished := Task.unfinished_of_sleeping racing.sleeping
  have free := Task.free_of_sleeping racing.sleeping
  rw [step_free known unfinished free]
  exact stepReady_racing known racing interpreter

end Steps

/-! ### Many steps -/

/-- However many steps of the task follow each other, the first reading at which it was due is all
that its end depends on. -/
theorem StepsOf.racedTo {interpreter : Interpreter} {id : TaskId} {first last : Session}
    {readings : List Nat} (steps : StepsOf interpreter id first readings last) {task : Task}
    {wakeAt deadline : Nat} (known : first.scheduler.task? id = some task)
    (racing : task.Racing wakeAt deadline) :
    ∃ current, last.scheduler.task? id = some current ∧
      current.RacedTo id wakeAt deadline (firstDue? wakeAt deadline readings) := by
  induction steps with
  | start => exact ⟨task, known, racing⟩
  | between _ keeps ih =>
      obtain ⟨earlier, found, raced⟩ := ih
      obtain ⟨current, now, kept⟩ := keeps earlier found
      exact ⟨current, now, kept.racedTo raced⟩
  | @step readings session _ ih =>
      obtain ⟨earlier, found, raced⟩ := ih
      rw [firstDue?_append]
      cases due : firstDue? wakeAt deadline readings with
      | none =>
          rw [due] at raced
          exact interpreter.step_racing found raced
      | some reading =>
          rw [due] at raced
          rw [Interpreter.step_finished found raced.1]
          exact ⟨earlier, found, raced⟩

theorem timeoutError_ne_void (id : TaskId) : timeoutError id ≠ .void := by
  intro same
  cases same

/-- A task without a body that sleeps is ended by the first of its steps at or after one of its two
moments, and by none before. How it ends is up to the moment that comes first, the wake time if they
are the same, just if the deadline is the earlier of the two or that step comes before it: a timer
that would wake before its deadline still runs out of time when no step comes in between. -/
theorem timer_ends_at_first_due_step (interpreter : Interpreter) {id : TaskId}
    {first last : Session} {readings : List Nat} {task : Task} {wakeAt deadline : Nat}
    (known : first.scheduler.task? id = some task) (racing : task.Racing wakeAt deadline)
    (steps : StepsOf interpreter id first readings last) :
    ∃ current, last.scheduler.task? id = some current ∧
      (firstDue? wakeAt deadline readings = none → current.isFinished = false) ∧
      ∀ due, firstDue? wakeAt deadline readings = some due →
        current.isFinished = true ∧
        current.result = some (if deadline ≤ due then timeoutError id else .void) ∧
        (current.result = some (if wakeAt ≤ deadline then .void else timeoutError id) ↔
          (wakeAt ≤ deadline → due < deadline)) := by
  obtain ⟨current, found, raced⟩ := steps.racedTo known racing
  refine ⟨current, found, fun early => ?_, fun due isFirst => ?_⟩
  · rw [early] at raced
    exact Task.unfinished_of_sleeping raced.sleeping
  · have passed := firstDue?_due isFirst
    rw [isFirst] at raced
    obtain ⟨finished, result⟩ := raced
    refine ⟨finished, result, ?_⟩
    rw [result, Option.some_inj]
    -- The two orders disagree only if the wake time is first and the step comes at or after both.
    by_cases sooner : wakeAt ≤ deadline
    · by_cases late : deadline ≤ due
      · simp [sooner, late, timeoutError_ne_void]
      · simp [sooner, late, Nat.lt_of_not_le late]
    · have late : deadline ≤ due := by omega
      simp [sooner, late]

/-- The session in which a timer of 5 ms with a deadline of 10 ms is first looked at after 20 ms. -/
def lateTimer : Session :=
  let asleep := ((interpreter 0).request (.spawnTimer 5) (.start {} 0)).session
  let limited := ((interpreter 0).request (.timeout ⟨0⟩ 10) asleep).session
  { limited with clock := { limited.clock with now := 20000000 } }

theorem lateTimer_racing :
    ∃ task, lateTimer.scheduler.task? ⟨0⟩ = some task ∧ task.Racing 5000000 10000000 :=
  ⟨_, rfl, rfl, rfl, rfl, rfl⟩

theorem timer_ends_at_first_due_step_late :
    ∃ task current, lateTimer.scheduler.task? ⟨0⟩ = some task ∧ task.Racing 5000000 10000000 ∧
      ((interpreter 3).step ⟨0⟩ lateTimer).session.scheduler.task? ⟨0⟩ = some current ∧
      current.result = some (timeoutError ⟨0⟩) := by
  obtain ⟨task, known, racing⟩ := lateTimer_racing
  obtain ⟨current, found, _, ended⟩ :=
    timer_ends_at_first_due_step (interpreter 3) known racing (.step .start)
  have due := ended 20000000 (by decide)
  exact ⟨task, current, known, racing, found, due.2.1⟩

/-- The order of the two moments alone does not say how a timer ends. -/
theorem not_timer_ends_by_first_moment :
    ¬ ∀ (interpreter : Interpreter) (id : TaskId) (first last : Session) (readings : List Nat)
      (task current : Task) (wakeAt deadline : Nat),
      first.scheduler.task? id = some task → task.Racing wakeAt deadline →
      StepsOf interpreter id first readings last → readings.Pairwise (· ≤ ·) →
      last.scheduler.task? id = some current → current.isFinished = true →
      current.result = some (if wakeAt ≤ deadline then .void else timeoutError id) := by
  intro claimed
  obtain ⟨task, known, racing⟩ := lateTimer_racing
  obtain ⟨current, found, finished, result⟩ := (interpreter 3).step_racing known racing
  have ended := claimed _ _ _ _ _ _ _ _ _ known racing (.step .start) (by simp) found finished
  exact timeoutError_ne_void ⟨0⟩ (Option.some.inj (result.symm.trans ended))

end CooperativeTasks
