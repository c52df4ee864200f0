import CooperativeTasks.Proofs.Invariants

set_option autoImplicit false

/-! What a task has to get past before a statement of it is executed.

A step reads the clock once. By that reading its task must neither have run out of time nor be
asleep, and it must not wait for a task that is unfinished. What the step found still holds when the
statement starts, since until then nothing else happens. -/

namespace CooperativeTasks

variable {α : Type}

/-- At this reading of the clock nothing keeps the task from executing a statement. -/
structure Task.Due (scheduler : Scheduler) (reading : Nat) (task : Task) : Prop where
  unfinished : task.isFinished = false
  free : ∀ awaited, task.waitingFor = some awaited → scheduler.isFinished awaited = true
  timely : ∀ deadline, task.deadline = some deadline → reading < deadline
  awake : ∀ wakeAt, task.wakeAt = some wakeAt → wakeAt ≤ reading

/-- The innermost step is one of this task, which is in no other step. It was found due for the
statement at its counter when the clock was read. -/
structure Session.Admitted (id : TaskId) (counter reading : Nat) (session : Session) : Prop where
  innermost : session.scheduler.active.head? = some id
  once : id ∉ session.scheduler.active.tail
  due : ∃ task statement, session.scheduler.task? id = some task ∧ task.counter = counter ∧
    task.statements[counter]? = some statement ∧ task.Due session.scheduler reading
  read : reading + session.clock.tick ≤ session.clock.now

/-- The task has come to its end by running out of time, and not too early. -/
structure Session.Expired (id : TaskId) (session : Session) : Prop where
  idle : id ∉ session.scheduler.active
  late : ∃ task deadline, session.scheduler.task? id = some task ∧ task.isFinished = true ∧
    task.result = some (timeoutError id) ∧ task.deadline = some deadline ∧
    deadline + session.clock.tick ≤ session.clock.now

/-- While nothing has been recorded since a step announced its statement, the statement is that of a
task that is due; and when a task has just been recorded to be out of time, it is. -/
structure Session.Punctual (session : Session) : Prop where
  admits : ∀ id counter reading earlier,
    session.journal = .stepped id counter reading :: earlier →
      id ∈ session.scheduler.active → session.Admitted id counter reading
  expires : ∀ id earlier, session.journal = .timedOut id :: earlier → session.Expired id

/-- Nothing about the task has changed that is looked at before a statement of it is executed, but
that it may not be waiting any more. -/
structure Task.KeepsTime (before after : Task) : Prop where
  body : after.body = before.body
  counter : after.counter = before.counter
  isFinished : after.isFinished = before.isFinished
  result : after.result = before.result
  deadline : after.deadline = before.deadline
  wakeAt : after.wakeAt = before.wakeAt
  waits : after.waitingFor = before.waitingFor ∨ after.waitingFor = none

/-- Nothing has been recorded, and no time been set or gone back. -/
structure Session.Still (before after : Session) : Prop where
  journal : after.journal = before.journal
  active : after.scheduler.active = before.scheduler.active
  now : before.clock.now ≤ after.clock.now
  tick : after.clock.tick = before.clock.tick
  tasks : ∀ id task, before.scheduler.task? id = some task →
    ∃ current, after.scheduler.task? id = some current ∧ task.KeepsTime current

theorem Task.KeepsTime.refl (task : Task) : task.KeepsTime task :=
  ⟨rfl, rfl, rfl, rfl, rfl, rfl, .inl rfl⟩

theorem Task.timely {task : Task} {reading : Nat}
    (timely : task.deadline.any (· ≤ reading) = false) :
    ∀ deadline, task.deadline = some deadline → reading < deadline := by
  intro deadline set
  rw [set] at timely
  exact Nat.lt_of_not_le (of_decide_eq_false timely)

theorem Task.awake {task : Task} {reading : Nat} (awake : task.wakeAt.any (reading < ·) = false) :
    ∀ wakeAt, task.wakeAt = some wakeAt → wakeAt ≤ reading := by
  intro wakeAt set
  rw [set] at awake
  exact Nat.le_of_not_lt (of_decide_eq_false awake)

theorem Task.Due.kept {scheduler other : Scheduler} {reading : Nat} {task current : Task}
    (due : task.Due scheduler reading) (mark : task.waitingFor = none)
    (keeps : task.KeepsTime current) : current.Due other reading where
  unfinished := keeps.isFinished.trans due.unfinished
  free awaited waits := by
    have unmarked : current.waitingFor = none := keeps.waits.elim (·.trans mark) fun free => free
    rw [unmarked] at waits
    cases waits
  timely deadline set := due.timely deadline (keeps.deadline ▸ set)
  awake wakeAt set := due.awake wakeAt (keeps.wakeAt ▸ set)

theorem Task.KeepsTime.start (task : Task) : task.KeepsTime task.start := by
  unfold Task.start
  split
  · exact .refl task
  · exact ⟨rfl, rfl, rfl, rfl, rfl, rfl, .inl rfl⟩

theorem Scheduler.isFinished_eq_false {id : TaskId} {scheduler : Scheduler} {task : Task}
    (known : scheduler.task? id = some task) (unfinished : task.isFinished = false) :
    scheduler.isFinished id = false := by
  unfold Scheduler.isFinished
  rw [known]
  exact unfinished

theorem Scheduler.isFinished_iff {id : TaskId} {scheduler : Scheduler} :
    scheduler.isFinished id = true ↔
      ∃ task, scheduler.task? id = some task ∧ task.isFinished = true := by
  unfold Scheduler.isFinished
  cases scheduler.task? id with
  | none => simp
  | some task => simp

namespace Session.Still

theorem ofTasks {before after : Session} (journal : after.journal = before.journal)
    (clock : after.clock = before.clock) (active : after.scheduler.active = before.scheduler.active)
    (tasks : after.scheduler.tasks = before.scheduler.tasks) : Still before after where
  journal := journal
  active := active
  now := Nat.le_of_eq (by rw [clock])
  tick := by rw [clock]
  tasks id task known := by
    refine ⟨task, ?_, .refl task⟩
    unfold Scheduler.task?
    rw [tasks]
    exact known

theorem onTask {change : Task → Task} (keeps : ∀ task : Task, task.KeepsTime (change task))
    (id : TaskId) (session : Session) : Still session (session.onTask id change) where
  journal := rfl
  active := rfl
  now := Nat.le_refl _
  tick := rfl
  tasks other task known := by
    by_cases same : other = id
    · subst other
      exact ⟨change task, task?_onTask known change, keeps task⟩
    · rw [task?_onTask_of_ne same]
      exact ⟨task, known, .refl task⟩

theorem ticked (session : Session) : Still session session.ticked where
  journal := rfl
  active := rfl
  now := Nat.le_add_right _ _
  tick := rfl
  tasks _ task known := ⟨task, known, .refl task⟩

theorem isFinished {before after : Session} (still : Still before after) {id : TaskId}
    (finished : before.scheduler.isFinished id = true) : after.scheduler.isFinished id = true := by
  obtain ⟨task, known, ended⟩ := Scheduler.isFinished_iff.mp finished
  obtain ⟨current, now, keeps⟩ := still.tasks id task known
  exact Scheduler.isFinished_iff.mpr ⟨current, now, keeps.isFinished.trans ended⟩

end Session.Still

namespace Session.Punctual

theorem ofOther {session : Session} {event : Event} {earlier : List Event}
    (recorded : session.journal = event :: earlier) (other : event.isOfGates = false) :
    session.Punctual where
  admits id counter reading _ same := by
    rw [recorded] at same
    cases same
    cases other
  expires id _ same := by
    rw [recorded] at same
    cases same
    cases other

theorem ofNoted {before after : Session} {event : Event} (noted : before.Noted event after)
    (other : event.isOfGates = false) : after.Punctual :=
  .ofOther noted.journal other

theorem announced {id : TaskId} {counter reading : Nat} {before after : Session}
    (noted : before.Noted (.stepped id counter reading) after)
    (idle : id ∉ after.scheduler.active) : after.Punctual where
  admits other _ _ _ same running := by
    rw [noted.journal] at same
    cases same
    exact absurd running idle
  expires other _ same := by
    rw [noted.journal] at same
    cases same

variable {before after : Session} (punctual : before.Punctual)

include punctual

theorem still (still : before.Still after) : after.Punctual where
  admits id counter reading earlier recorded running := by
    rw [still.active] at running
    have admitted := punctual.admits id counter reading earlier (still.journal ▸ recorded) running
    obtain ⟨task, statement, known, counts, present, due⟩ := admitted.due
    obtain ⟨current, now, keeps⟩ := still.tasks id task known
    constructor
    · rw [still.active]
      exact admitted.innermost
    · rw [still.active]
      exact admitted.once
    · refine ⟨current, statement, now, keeps.counter.trans counts, ?_, ?_⟩
      · unfold Task.statements at present ⊢
        rw [keeps.body]
        exact present
      · constructor
        · exact keeps.isFinished.trans due.unfinished
        · intro awaited waits
          rcases keeps.waits with same | freed
          · exact still.isFinished (due.free awaited (same ▸ waits))
          · rw [freed] at waits
            cases waits
        · exact fun deadline set => due.timely deadline (keeps.deadline ▸ set)
        · exact fun wakeAt set => due.awake wakeAt (keeps.wakeAt ▸ set)
    · rw [still.tick]
      exact Nat.le_trans admitted.read still.now
  expires id earlier recorded := by
    obtain ⟨idle, task, deadline, known, finished, result, set, passed⟩ :=
      punctual.expires id earlier (still.journal ▸ recorded)
    obtain ⟨current, now, keeps⟩ := still.tasks id task known
    refine ⟨by rw [still.active]; exact idle, current, deadline, now, ?_, ?_, ?_, ?_⟩
    · exact keeps.isFinished.trans finished
    · exact keeps.result.trans result
    · exact keeps.deadline.trans set
    · rw [still.tick]
      exact Nat.le_trans passed still.now

theorem onIdle {id : TaskId} (idle : id ∉ before.scheduler.active)
    (unfinished : before.scheduler.isFinished id = false) (change : Task → Task) :
    (before.onTask id change).Punctual where
  admits other counter reading earlier recorded running := by
    have admitted := punctual.admits other counter reading earlier recorded running
    obtain ⟨task, statement, known, counts, present, due⟩ := admitted.due
    have different : other ≠ id := fun same => idle (same ▸ running)
    refine ⟨admitted.innermost, admitted.once, ⟨task, statement, ?_, counts, present, ?_⟩,
      admitted.read⟩
    · exact (task?_onTask_of_ne different change before).trans known
    · refine ⟨due.unfinished, fun awaited waits => ?_, due.timely, due.awake⟩
      have finished := due.free awaited waits
      have apart : awaited ≠ id := by
        rintro rfl
        rw [unfinished] at finished
        cases finished
      unfold Scheduler.isFinished at finished ⊢
      rw [task?_onTask_of_ne apart]
      exact finished
  expires other earlier recorded := by
    obtain ⟨out, task, deadline, known, finished, result, set, passed⟩ :=
      punctual.expires other earlier recorded
    have different : other ≠ id := by
      rintro rfl
      unfold Scheduler.isFinished at unfinished
      rw [known] at unfinished
      exact Bool.false_ne_true (unfinished.symm.trans finished)
    refine ⟨out, task, deadline, ?_, finished, result, set, passed⟩
    exact (task?_onTask_of_ne different change before).trans known

theorem left {id : TaskId} {outer : List TaskId} (running : before.scheduler.active = id :: outer)
    (once : id ∉ outer) (out : before.SteppedOut id after) : after.Punctual where
  admits other counter reading earlier recorded inside := by
    rw [out.active, running, List.tail_cons] at inside
    have within : other ∈ before.scheduler.active := by
      rw [running]
      exact List.mem_cons_of_mem _ inside
    have admitted := punctual.admits other counter reading earlier (out.journal ▸ recorded) within
    have innermost := admitted.innermost
    rw [running] at innermost
    cases innermost
    exact absurd inside once
  expires other earlier recorded := by
    obtain ⟨idle, task, deadline, known, finished, result, set, passed⟩ :=
      punctual.expires other earlier (out.journal ▸ recorded)
    rw [running, List.mem_cons, not_or] at idle
    refine ⟨?_, task, deadline, ?_, finished, result, set, ?_⟩
    · rw [out.active, running]
      exact idle.2
    · rw [out.others other idle.1]
      exact known
    · rw [out.clock]
      exact passed

end Session.Punctual

theorem Session.Punctual.onOutside {session : Session} (punctual : session.Punctual)
    (outside : session.scheduler.active = []) {change : Task → Task}
    (keeps : ∀ task, (change task).isFinished = task.isFinished ∧
      (change task).result = task.result ∧ (change task).deadline = task.deadline) (id : TaskId) :
    (session.onTask id change).Punctual where
  admits other counter reading earlier recorded running := by
    rw [show (session.onTask id change).scheduler.active = [] from outside] at running
    cases running
  expires other earlier recorded := by
    obtain ⟨idle, task, deadline, known, finished, result, set, passed⟩ :=
      punctual.expires other earlier recorded
    by_cases same : other = id
    · subst other
      obtain ⟨ended, gives, limited⟩ := keeps task
      exact ⟨idle, change task, deadline, task?_onTask known change, ended.trans finished,
        gives.trans result, limited.trans set, passed⟩
    · refine ⟨idle, task, deadline, ?_, finished, result, set, passed⟩
      exact (task?_onTask_of_ne same change session).trans known

/-! ### Actions -/

/-- From a session that is punctual, so are all sessions that the action leads to. -/
def Act.Punctual (action : Act α) : Prop :=
  ∀ session, session.Punctual → (action session).session.Punctual

/-! ### Steps and turns -/

theorem Interpreter.stepEnding_punctual {id : TaskId} {task : Task} {session : Session}
    {outcome : Outcome Unit} (idle : id ∉ session.scheduler.active)
    (brackets : outcome.Brackets .statement (session.enteringTask id task))
    (inside : outcome.session.Punctual) :
    (stepEnding id task session.executor outcome).session.Punctual := by
  have out := stepEnding_stepsOut id task session.executor outcome
  cases outcome with
  | halted moment => exact inside
  | done value left => exact inside.left (Session.Kept.active brackets) idle (out nofun)
  | raised signal left => exact inside.left (Session.Kept.active brackets) idle (out nofun)

section Turns

variable {interpreter : Interpreter}
  (exec : ∀ path statement, (interpreter.exec path statement).Punctual)
  (brackets : ∀ path statement, (interpreter.exec path statement).Brackets .statement)

include exec brackets

theorem stepping_punctual {id : TaskId} {task : Task} {statement : Stmt} {reading : Nat}
    {start noted : Session} (same : start.Noted (.stepped id task.counter reading) noted)
    (idle : id ∉ noted.scheduler.active)
    (due : ∃ current, noted.scheduler.task? id = some current ∧ current.counter = task.counter ∧
      current.statements[task.counter]? = some statement ∧ current.Due noted.scheduler reading)
    (read : reading + noted.clock.tick ≤ noted.clock.now) :
    (interpreter.stepping id task statement noted).session.Punctual := by
  have begins : (noted.enteringTask id task).Punctual := by
    constructor
    · intro other counter reading' earlier recorded _
      rw [show (noted.enteringTask id task).journal = _ from same.journal] at recorded
      cases recorded
      obtain ⟨current, known, counts, present, unfinished, free, timely, awake⟩ := due
      refine ⟨rfl, idle, ⟨current, statement, known, counts, present, ?_⟩, read⟩
      exact ⟨unfinished, free, timely, awake⟩
    · intro other earlier recorded
      rw [show (noted.enteringTask id task).journal = _ from same.journal] at recorded
      cases recorded
  exact Interpreter.stepEnding_punctual idle (brackets _ _ _) (exec _ _ _ begins)

theorem runStatement_punctual {id : TaskId} {reading : Nat} {session : Session} {task : Task}
    (punctual : session.Punctual) (idle : id ∉ session.scheduler.active)
    (known : session.scheduler.task? id = some task) (mark : task.waitingFor = none)
    (due : task.Due session.scheduler reading)
    (read : reading + session.clock.tick ≤ session.clock.now) :
    (interpreter.runStatement id reading session).session.Punctual := by
  have started : (session.onTask id Task.start).Punctual :=
    punctual.still (.onTask Task.KeepsTime.start id session)
  have found := Session.task?_onTask known Task.start
  have outside {noted : Session} {event : Event}
      (same : (Interpreter.announcing id (session.onTask id Task.start)).Noted event noted) :
      id ∉ noted.scheduler.active := by
    rw [same.scheduler]
    exact idle
  refine interpreter.runStatement_elim (motive := fun outcome => outcome.session.Punctual)
    ?_ ?_ ?_ ?_
  · exact fun _ => started
  · intro _ _ _
    refine started.onIdle idle ?_ _
    exact Scheduler.isFinished_eq_false found ((Task.KeepsTime.start task).isFinished.trans
      due.unfinished)
  · exact fun _ _ moment noted => .announced noted (outside noted)
  · intro begun begins statement present noted same
    cases found.symm.trans begins
    refine stepping_punctual exec brackets same (outside same) ?_ ?_
    · refine ⟨Interpreter.stepCounted task.start, ?_, rfl, present, ?_⟩
      · rw [same.scheduler]
        exact Session.task?_onTask found Interpreter.stepCounted
      · have unmarked : task.start.waitingFor = none := by
          rcases (Task.KeepsTime.start task).waits with same | free
          · exact same.trans mark
          · exact free
        have begun : task.start.Due session.scheduler reading :=
          due.kept mark (Task.KeepsTime.start task)
        exact begun.kept unmarked ⟨rfl, rfl, rfl, rfl, rfl, rfl, .inl rfl⟩
    · rw [same.clock]
      exact read

theorem stepReady_punctual {id : TaskId} {session : Session} {task : Task}
    (punctual : session.Punctual) (idle : id ∉ session.scheduler.active)
    (known : session.scheduler.task? id = some task) (unfinished : task.isFinished = false)
    (mark : task.waitingFor = none) : (interpreter.stepReady id session).session.Punctual := by
  have ticked : session.ticked.Punctual := punctual.still (.ticked session)
  have same {other : Task} (found : session.scheduler.task? id = some other) : other = task :=
    Option.some.inj (found.symm.trans known)
  have awake : (session.ticked.onTask id Interpreter.woken).Punctual :=
    ticked.onIdle idle (Scheduler.isFinished_eq_false known unfinished) _
  have known' : session.ticked.scheduler.task? id = some task := known
  have found := Session.task?_onTask known' Interpreter.woken
  refine interpreter.stepReady_elim (motive := fun outcome => outcome.session.Punctual)
    ?_ ?_ ?_ ?_ ?_
  · exact fun _ => ticked
  · intro other found late after noted
    cases same found
    -- A task that has run out of time is recorded with the deadline that had passed.
    have expired : after.Punctual := by
      constructor
      · intro other _ _ _ recorded
        rw [noted.journal] at recorded
        cases recorded
      · intro other _ recorded
        rw [noted.journal] at recorded
        cases recorded
        obtain ⟨deadline, set, passed⟩ := (Option.any_eq_true _ _).mp late
        refine ⟨by rw [noted.scheduler]; exact idle, Task.complete (timeoutError id) task, deadline,
          ?_, rfl, rfl, set, ?_⟩
        · rw [noted.scheduler]
          exact Session.task?_onTask known' (Task.complete (timeoutError id))
        · rw [noted.clock]
          exact Nat.add_le_add_right (of_decide_eq_true passed) session.clock.tick
    exact ⟨expired, expired⟩
  · exact fun _ _ _ _ => ticked.still (.ofTasks rfl rfl rfl rfl)
  · intro _ _ _ _ _
    refine ⟨awake.onIdle idle ?_ _, fun after noted => ⟨.ofNoted noted rfl, .ofNoted noted rfl⟩⟩
    exact Scheduler.isFinished_eq_false found unfinished
  · intro other found' timely _ _
    cases same found'
    refine runStatement_punctual exec brackets awake idle found mark ?_ (Nat.le_refl _)
    refine ⟨unfinished, fun awaited waits => ?_, Task.timely timely, fun _ set => nomatch set⟩
    rw [show (Interpreter.woken task).waitingFor = none from mark] at waits
    cases waits

theorem step_punctual {id : TaskId} {session : Session} (idle : id ∉ session.scheduler.active)
    (punctual : session.Punctual) : (interpreter.step id session).session.Punctual := by
  refine interpreter.step_elim (motive := fun outcome => outcome.session.Punctual) ?_ ?_ ?_ ?_
  · exact fun _ => punctual
  · exact fun _ _ _ _ _ _ after noted => ⟨.ofNoted noted rfl, .ofNoted noted rfl⟩
  · exact fun task known unfinished mark =>
      stepReady_punctual exec brackets punctual idle known unfinished mark
  · intro task known unfinished _ _ _
    have freed := punctual.onIdle idle (Scheduler.isFinished_eq_false known unfinished)
      fun task => { task with waitingFor := none }
    have found := Session.task?_onTask known fun task => { task with waitingFor := none }
    exact stepReady_punctual exec brackets freed idle found unfinished rfl

end Turns

theorem Session.Amended.still {before after : Session} (amends : before.Amended false after) :
    before.Still after := by
  cases amends with
  | apart journal clock active tasks => exact .ofTasks journal clock active tasks
  | later nanos =>
      refine ⟨rfl, rfl, Nat.le_add_right _ _, rfl, fun _ task known => ?_⟩
      exact ⟨task, known, .refl task⟩
  | reporting id keeps =>
      refine .onTask (fun task => ?_) id before
      obtain ⟨_, _, _, _, same⟩ := keeps task
      rw [same]
      exact ⟨rfl, rfl, rfl, rfl, rfl, rfl, .inl rfl⟩

/-- Whatever is done, no statement is executed before it is due. -/
theorem Session.punctual_invariant : Session.Invariant Session.Punctual where
  amended amends punctual := punctual.still amends.still
  noted _ noted other _ := .ofNoted noted other
  awaiting := by
    intro before noted id waiter same _
    have recorded : (noted.awaitedBy waiter (some id)).journal =
        .awaiting id waiter :: before.journal := by
      unfold Session.awaitedBy
      split <;> exact same.journal
    exact .ofOther recorded rfl
  marked id _ outside punctual := by
    refine punctual.onOutside outside ?_ id
    exact fun _ => ⟨rfl, rfl, rfl⟩
  step exec _ _ idle punctual :=
    step_punctual exec (fun path statement =>
      ((interpreter_deepens (Nat.le_refl _)).exec path statement).brackets) idle punctual

end CooperativeTasks
