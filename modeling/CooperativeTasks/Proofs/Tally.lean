import CooperativeTasks.Proofs.Awaiting
import CooperativeTasks.Proofs.Proceeding
import CooperativeTasks.Proofs.QueueInvariant

set_option autoImplicit false

/-! The statistics add up.

Each count is kept in one place and the tasks that it is about in another. They agree at every
moment, whatever has been asked for and whatever has gone wrong. When a whole program has run to its
end, nothing is left to do for any task. -/

namespace CooperativeTasks

def Task.timedOut (task : Task) : Bool :=
  task.isFinished && task.result.any (Value.isErrorOf "Timeout")

/-- The steps that have been executed of any of the tasks. -/
def Task.stepsOf : List Task → Nat
  | [] => 0
  | task :: rest => task.steps + stepsOf rest

theorem Task.stepsOf_append (earlier later : List Task) :
    stepsOf (earlier ++ later) = stepsOf earlier + stepsOf later := by
  induction earlier with
  | nil => exact (Nat.zero_add _).symm
  | cons task rest ih =>
      rw [List.cons_append, stepsOf, stepsOf, ih]
      exact (Nat.add_assoc ..).symm

/-- What the statistics say is what the table of tasks shows. -/
structure Scheduler.Tallied (scheduler : Scheduler) : Prop where
  registered : scheduler.statistics.tasksRegistered = scheduler.tasks.length
  next : scheduler.ids.next.index = scheduler.tasks.length
  ids : scheduler.tasks.map Task.id = (List.range scheduler.tasks.length).map TaskId.mk
  steps : scheduler.statistics.stepsExecuted = Task.stepsOf scheduler.tasks
  completed : scheduler.statistics.tasksCompleted = scheduler.tasks.countP Task.isPublished
  published : ∀ task ∈ scheduler.tasks, task.isPublished = true → task.isFinished = true
  timeouts : scheduler.statistics.timeouts ≤ scheduler.tasks.countP Task.timedOut

/-! ### Changes to a task -/

theorem Task.Fresh.blank {task : Task} (fresh : task.Fresh) :
    task.steps = 0 ∧ task.isFinished = false ∧ task.isPublished = false := by
  induction fresh with
  | ofFunction function args => exact ⟨rfl, rfl, rfl⟩
  | timer => exact ⟨rfl, rfl, rfl⟩
  | withReceiver _ value site ih => exact ih

/-- The statistics gain what a task gains. -/
structure Statistics.Follows (before after : Statistics) (task changed : Task) : Prop where
  id : changed.id = task.id
  registered : after.tasksRegistered = before.tasksRegistered
  steps : after.stepsExecuted + task.steps = before.stepsExecuted + changed.steps
  completed : after.tasksCompleted + (if task.isPublished then 1 else 0) =
    before.tasksCompleted + if changed.isPublished then 1 else 0
  published : changed.isPublished = true → changed.isFinished = true
  timeouts : after.timeouts + (if task.timedOut then 1 else 0) ≤
    before.timeouts + if changed.timedOut then 1 else 0

theorem Task.timedOut_entry {task changed : Task} (same : changed.entry = task.entry) :
    changed.timedOut = task.timedOut := by
  have finished : changed.isFinished = task.isFinished := congrArg Entry.isFinished same
  have result : changed.result = task.result := congrArg Entry.result same
  rw [timedOut, timedOut, finished, result]

theorem Statistics.Follows.marked {task changed : Task} (same : changed.entry = task.entry)
    (published : task.isPublished = true → task.isFinished = true) (statistics : Statistics) :
    statistics.Follows statistics task changed := by
  have steps : changed.steps = task.steps := congrArg Task.Entry.steps same
  have finished : changed.isFinished = task.isFinished := congrArg Task.Entry.isFinished same
  have reported : changed.isPublished = task.isPublished := congrArg Task.Entry.isPublished same
  refine ⟨congrArg Task.Entry.id same, rfl, ?_, ?_, ?_, ?_⟩
  · rw [steps]
  · rw [reported]
  · rw [reported, finished]
    exact published
  · exact Nat.le_of_eq (by rw [Task.timedOut_entry same])

theorem Statistics.Follows.completed_task {task : Task} (unfinished : task.isFinished = false)
    (published : task.isPublished = true → task.isFinished = true) (payload : Value)
    (statistics : Statistics) :
    statistics.Follows statistics task (task.complete payload) ∧
      (payload.isErrorOf "Timeout" = true →
        statistics.Follows { statistics with timeouts := statistics.timeouts + 1 } task
          (task.complete payload)) := by
  have unpublished : task.isPublished = false := by
    cases reported : task.isPublished with
    | false => rfl
    | true =>
        rw [published reported] at unfinished
        cases unfinished
  have onTime : task.timedOut = false := by
    rw [Task.timedOut, unfinished, Bool.false_and]
  refine ⟨⟨rfl, rfl, rfl, rfl, fun _ => rfl, ?_⟩, fun late => ⟨rfl, rfl, rfl, rfl, fun _ => rfl, ?_⟩⟩
  · rw [onTime]
    exact Nat.le_add_right _ _
  · have timedOut : (task.complete payload).timedOut = true := late
    rw [onTime, timedOut]
    exact Nat.le_refl _

namespace Scheduler.Tallied

variable {scheduler : Scheduler} (tallied : scheduler.Tallied)

include tallied

theorem reported {id : TaskId} {task : Task} (found : scheduler.task? id = some task)
    (published : task.isPublished = true) : task.isFinished = true :=
  tallied.published task (List.mem_of_getElem? found) published

theorem change {id : TaskId} {task : Task} (found : scheduler.task? id = some task)
    {change : Task → Task} {statistics : Statistics}
    (follows : scheduler.statistics.Follows statistics task (change task)) :
    Tallied { scheduler.modifyTask id change with statistics } := by
  obtain ⟨known, here⟩ := List.getElem?_eq_some_iff.mp found
  obtain ⟨earlier, other, later, whole, place, changed⟩ := List.exists_of_modify change known
  have same : other = task := by
    rw [← here]
    simp [whole, ← place]
  subst other
  have length : (scheduler.tasks.modify id.index change).length = scheduler.tasks.length :=
    List.length_modify ..
  constructor
  · exact (follows.registered.trans tallied.registered).trans length.symm
  · exact tallied.next.trans length.symm
  · change (scheduler.tasks.modify id.index change).map Task.id =
      (List.range (scheduler.tasks.modify id.index change).length).map TaskId.mk
    rw [length, ← tallied.ids, changed, whole]
    simp [follows.id]
  · have before := tallied.steps
    have gained := follows.steps
    change statistics.stepsExecuted = Task.stepsOf (scheduler.tasks.modify id.index change)
    rw [changed]
    rw [whole] at before
    simp only [Task.stepsOf_append, Task.stepsOf] at before ⊢
    omega
  · have before := tallied.completed
    have gained := follows.completed
    change statistics.tasksCompleted = (scheduler.tasks.modify id.index change).countP Task.isPublished
    rw [changed]
    rw [whole] at before
    simp only [List.countP_append, List.countP_cons] at before ⊢
    omega
  · intro each member
    change each ∈ scheduler.tasks.modify id.index change at member
    rw [changed] at member
    have rest := tallied.published
    rw [whole] at rest
    rcases List.mem_append.mp member with old | member
    · exact rest each (List.mem_append_left _ old)
    · rcases List.mem_cons.mp member with rfl | old
      · exact follows.published
      · exact rest each (List.mem_append_right _ (List.mem_cons_of_mem _ old))
  · have before := tallied.timeouts
    have gained := follows.timeouts
    change statistics.timeouts ≤ (scheduler.tasks.modify id.index change).countP Task.timedOut
    rw [changed]
    rw [whole] at before
    simp only [List.countP_append, List.countP_cons] at before ⊢
    omega

theorem marked (id : TaskId) {change : Task → Task}
    (keeps : ∀ task, (change task).entry = task.entry) : (scheduler.modifyTask id change).Tallied := by
  cases found : scheduler.task? id with
  | none =>
      have missing : scheduler.tasks.length ≤ id.index := List.getElem?_eq_none_iff.mp found
      have same : scheduler.modifyTask id change = scheduler := by
        unfold Scheduler.modifyTask
        rw [List.modify_eq_self missing]
      rw [same]
      exact tallied
  | some task => exact tallied.change found (.marked (keeps task) (tallied.reported found) _)

theorem register {task : Task} (fresh : task.Fresh) : (scheduler.register task).2.Tallied := by
  obtain ⟨unstepped, unfinished, unpublished⟩ := fresh.blank
  have number : scheduler.ids.next = ⟨scheduler.tasks.length⟩ := congrArg TaskId.mk tallied.next
  constructor
  · simp [Scheduler.register, tallied.registered]
  · simp [Scheduler.register, TaskIds.take, tallied.next]
  · simp [Scheduler.register, TaskIds.take, tallied.ids, List.range_succ, number]
  · simp [Scheduler.register, tallied.steps, Task.stepsOf_append, Task.stepsOf, unstepped]
  · simp [Scheduler.register, tallied.completed, unpublished]
  · intro each member
    rcases List.mem_append.mp member with old | new
    · exact tallied.published each old
    · rw [List.mem_singleton.mp new]
      intro published
      rw [unpublished] at published
      cases published
  · have before := tallied.timeouts
    simp [Scheduler.register, Task.timedOut, unfinished]
    exact before

end Scheduler.Tallied

namespace Session

theorem Closes.tallied {id : TaskId} {before after : Session} (closes : before.Closes id after)
    (tallied : before.scheduler.Tallied) : after.scheduler.Tallied := by
  induction closes with
  | refl => exact tallied
  | completed idle unfinished payload =>
      obtain ⟨task, found, lives⟩ := unfinished
      exact tallied.change found
        (Statistics.Follows.completed_task lives (tallied.reported found) payload _).1
  | expired idle unfinished =>
      obtain ⟨task, found, lives⟩ := unfinished
      exact tallied.change found
        ((Statistics.Follows.completed_task lives (tallied.reported found) _ _).2 rfl)
  | noted _ _ noted ih =>
      rw [noted.scheduler]
      exact ih

theorem Owes.tallied {id : TaskId} {session : Session} (owes : session.Owes id)
    (tallied : session.scheduler.Tallied) (receiver : Option Receiver) :
    (session.reporting id receiver).scheduler.Tallied := by
  obtain ⟨task, found, finished, unpublished⟩ := owes
  refine tallied.change found ⟨rfl, rfl, rfl, ?_, fun _ => finished, Nat.le_refl _⟩
  rw [unpublished]
  rfl

theorem Proceeds.tallied {whole : Bool} {before after : Session}
    (proceeds : Proceeds whole before after) (tallied : before.scheduler.Tallied) :
    after.scheduler.Tallied := by
  -- Where a task waits has nothing to do with the statistics.
  have moved {scheduler : Scheduler} (tallied : scheduler.Tallied) (queue : ReadyQueue)
      (active : List TaskId) : Scheduler.Tallied { scheduler with queue, active } :=
    ⟨tallied.registered, tallied.next, tallied.ids, tallied.steps, tallied.completed,
      tallied.published, tallied.timeouts⟩
  induction proceeds with
  | aside scheduler _ =>
      rw [scheduler]
      exact tallied
  | trans _ _ earlier later => exact later (earlier tallied)
  | noted _ noted =>
      rw [noted.scheduler]
      exact tallied
  | paused session =>
      exact ⟨tallied.registered, tallied.next, tallied.ids, tallied.steps, tallied.completed,
        tallied.published, tallied.timeouts⟩
  | blocked session =>
      exact ⟨tallied.registered, tallied.next, tallied.ids, tallied.steps, tallied.completed,
        tallied.published, tallied.timeouts⟩
  | registered fresh noted =>
      rw [noted.scheduler]
      exact tallied.register fresh
  | marked id keeps session => exact tallied.marked id keeps
  | stepped known =>
      obtain ⟨task, found⟩ := Option.isSome_iff_exists.mp known
      have published : task.isPublished = true → task.isFinished = true := tallied.reported found
      refine tallied.change found ⟨rfl, rfl, ?_, rfl, published, Nat.le_refl _⟩
      exact Nat.add_right_comm _ 1 task.steps
  | dequeued front noted =>
      obtain ⟨rest, _, rfl⟩ := Scheduler.dequeue?_eq_some front
      rw [noted.scheduler]
      exact moved tallied _ _
  | requeued front noted _ back inside =>
      obtain ⟨rest, _, rfl⟩ := Scheduler.dequeue?_eq_some front
      rw [noted.scheduler] at inside
      rw [back.scheduler]
      exact moved (inside (moved tallied _ _)) _ _
  | entered idle unfinished task => exact moved tallied _ _
  | left idle unfinished _ kept inside => exact moved (inside (moved tallied _ _)) _ _
  | closed closes _ => exact closes.tallied tallied
  | reported owes receiver => exact owes.tallied tallied receiver
  | finalized closes owes _ noted inside =>
      rw [noted.scheduler]
      exact inside (owes.tallied (closes.tallied tallied) _)

end Session

/-! ### Tasks are finalized once -/

/-- Whether a task is finished, and whether its results have been published. -/
def Scheduler.standing (id : TaskId) (scheduler : Scheduler) : Bool × Bool :=
  match scheduler.task? id with
  | none => (false, false)
  | some task => (task.isFinished, task.isPublished)

theorem Scheduler.standing_eq (id : TaskId) (scheduler : Scheduler) :
    scheduler.standing id =
      ((scheduler.task? id).any Task.isFinished, (scheduler.task? id).any Task.isPublished) := by
  unfold standing
  cases scheduler.task? id <;> rfl

theorem Scheduler.standing_modifyTask {change : Task → Task}
    (keeps : ∀ task, (change task).isFinished = task.isFinished ∧
      (change task).isPublished = task.isPublished) (id other : TaskId) (scheduler : Scheduler) :
    (scheduler.modifyTask id change).standing other = scheduler.standing other := by
  rw [standing_eq, standing_eq]
  exact view_modifyTask (fun known => (known.any Task.isFinished, known.any Task.isPublished))
    (fun task => Prod.ext (keeps task).1 (keeps task).2) id other scheduler

theorem Scheduler.standing_register {task : Task} (fresh : task.Fresh) (id : TaskId)
    (scheduler : Scheduler) : (scheduler.register task).2.standing id = scheduler.standing id := by
  have blank : task.isFinished = false ∧ task.isPublished = false := fresh.blank.2
  rw [standing_eq, standing_eq]
  exact view_register (fun known => (known.any Task.isFinished, known.any Task.isPublished))
    (Prod.ext blank.1 blank.2) id

theorem Event.ne_finalized {event : Event} (aside : event.isOfQueue = false) (id : TaskId) :
    event ≠ .finalized id := by
  rintro rfl
  cases aside

namespace Session

/-- The results of the task have been published exactly if it is finished, and the journal has it
once. It may be behind by one. -/
structure Settled (behind : Nat) (id : TaskId) (session : Session) : Prop where
  paid : session.scheduler.standing id ≠ (true, false)
  once : session.journal.count (.finalized id) + behind =
    if (session.scheduler.standing id).2 then 1 else 0

/-- What is settled stays settled. -/
def Settles (before after : Session) : Prop :=
  ∀ behind id, before.Settled behind id → after.Settled behind id

theorem owes_iff {id : TaskId} {session : Session} :
    session.Owes id ↔ session.scheduler.standing id = (true, false) := by
  unfold Owes Scheduler.standing
  cases session.scheduler.task? id with
  | none => simp
  | some task => simp

theorem Settled.same {behind : Nat} {id : TaskId} {before after : Session}
    (settled : before.Settled behind id)
    (standing : after.scheduler.standing id = before.scheduler.standing id)
    (journal : after.journal.count (.finalized id) = before.journal.count (.finalized id)) :
    after.Settled behind id := by
  constructor
  · rw [standing]
    exact settled.paid
  · rw [journal, standing]
    exact settled.once

theorem Settles.same {before after : Session}
    (standing : ∀ id, after.scheduler.standing id = before.scheduler.standing id)
    (journal : ∀ id, after.journal.count (.finalized id) = before.journal.count (.finalized id)) :
    before.Settles after :=
  fun _ id settled => settled.same (standing id) (journal id)

theorem Noted.finalizations {event : Event} {before after : Session}
    (noted : before.Noted event after) (other : ∀ id, event ≠ .finalized id) (id : TaskId) :
    after.journal.count (.finalized id) = before.journal.count (.finalized id) := by
  rw [noted.journal]
  exact List.count_cons_of_ne (other id)

theorem Closes.unreported {id : TaskId} {before after : Session} (closes : before.Closes id after) :
    (after.scheduler.standing id).2 = (before.scheduler.standing id).2 ∧
      ∀ other, after.journal.count (.finalized other) = before.journal.count (.finalized other) := by
  have completes (payload : Value) (session : Session) :
      ((session.onTask id (Task.complete payload)).scheduler.standing id).2 =
        (session.scheduler.standing id).2 := by
    unfold Scheduler.standing
    change (match (session.scheduler.modifyTask id (Task.complete payload)).task? id with
      | none => (false, false)
      | some task => (task.isFinished, task.isPublished)).2 = _
    rw [Scheduler.task?_modifyTask_self]
    cases session.scheduler.task? id <;> rfl
  induction closes with
  | refl => exact ⟨rfl, fun _ => rfl⟩
  | completed idle unfinished payload => exact ⟨completes payload _, fun _ => rfl⟩
  | expired idle unfinished => exact ⟨completes _ _, fun _ => rfl⟩
  | noted _ aside noted ih =>
      refine ⟨?_, fun other => ?_⟩
      · rw [noted.scheduler]
        exact ih.1
      · rw [noted.finalizations (Event.ne_finalized aside) other]
        exact ih.2 other

theorem finalized_settles {id : TaskId} {receiver : Option Receiver}
    {before closed left after : Session} (closes : before.Closes id closed) (owes : closed.Owes id)
    (inside : (closed.reporting id receiver).Settles left)
    (noted : left.Noted (.finalized id) after) : before.Settles after := by
  intro behind other settled
  obtain ⟨unreported, recorded⟩ := closes.unreported
  by_cases same : other = id
  · subst other
    have standing := owes_iff.mp owes
    have unpublished : (before.scheduler.standing id).2 = false := by
      rw [← unreported, standing]
    have none : before.journal.count (.finalized id) + behind = 0 := by
      have once := settled.once
      rw [unpublished] at once
      exact once
    -- Marked and not yet recorded, the task is behind by one.
    have reporting : (closed.reporting id receiver).Settled 1 id := by
      obtain ⟨task, found, finished, _⟩ := owes
      have reported : (closed.reporting id receiver).scheduler.standing id = (true, true) := by
        change (closed.scheduler.modifyTask id fun task =>
          { task with isPublished := true, receiver }).standing id = _
        unfold Scheduler.standing
        rw [Scheduler.task?_modifyTask_self, found]
        exact Prod.ext finished rfl
      constructor
      · rw [reported]
        decide
      · rw [reported]
        change closed.journal.count (.finalized id) + 1 = 1
        rw [recorded]
        omega
    have ended := inside 1 id reporting
    constructor
    · rw [noted.scheduler]
      exact ended.paid
    · rw [noted.scheduler, noted.journal, List.count_cons_self, ← ended.once]
      omega
  · have apart : (closed.reporting id receiver).Settled behind other := by
      refine settled.same ?_ (recorded other)
      change (closed.scheduler.modifyTask id _).standing other = _
      unfold Scheduler.standing
      rw [Scheduler.task?_modifyTask_of_ne same, closes.others same]
    refine (inside behind other apart).same (by rw [noted.scheduler]) ?_
    rw [noted.journal]
    refine List.count_cons_of_ne fun equal => same ?_
    cases equal
    rfl

/-- What is settled is so again whenever code has returned. -/
theorem Proceeds.settles {before after : Session} (proceeds : Proceeds true before after) :
    before.Settles after := by
  -- In a run that is whole, whatever was entered has been left and whatever owed has reported.
  generalize whole : true = mode at proceeds
  induction proceeds with
  | aside scheduler journal =>
      exact .same (fun id => by rw [scheduler]) fun id => by rw [journal]
  | trans _ _ earlier later =>
      obtain ⟨first, second⟩ := Bool.and_eq_true_iff.mp whole.symm
      intro behind id settled
      exact later second.symm behind id (earlier first.symm behind id settled)
  | noted aside noted =>
      exact .same (fun id => by rw [noted.scheduler]) (noted.finalizations (Event.ne_finalized aside))
  | paused session => exact .same (fun _ => rfl) fun _ => rfl
  | blocked session => exact .same (fun _ => rfl) fun _ => rfl
  | registered fresh noted =>
      refine .same (fun id => ?_) (noted.finalizations fun _ => nofun)
      rw [noted.scheduler]
      exact Scheduler.standing_register fresh id _
  | marked id keeps session =>
      refine .same (fun other => Scheduler.standing_modifyTask (fun task => ?_) id other _) fun _ => rfl
      exact ⟨congrArg Task.Entry.isFinished (keeps task), congrArg Task.Entry.isPublished (keeps task)⟩
  | stepped known =>
      refine .same (fun other => Scheduler.standing_modifyTask (fun task => ?_) _ other _) fun _ => rfl
      exact ⟨rfl, rfl⟩
  | dequeued front noted =>
      obtain ⟨rest, _, rfl⟩ := Scheduler.dequeue?_eq_some front
      exact .same (fun id => by rw [noted.scheduler]; rfl) (noted.finalizations fun _ => nofun)
  | requeued front noted _ back inside =>
      obtain ⟨rest, _, rfl⟩ := Scheduler.dequeue?_eq_some front
      intro behind id settled
      have popped := settled.same (by rw [noted.scheduler]; rfl)
        (noted.finalizations (fun _ => nofun) id)
      exact (inside rfl behind id popped).same (by rw [back.scheduler]; rfl)
        (back.finalizations (fun _ => nofun) id)
  | entered idle unfinished task => cases whole
  | left idle unfinished _ kept inside =>
      intro behind id settled
      exact (inside rfl behind id (settled.same rfl rfl)).same rfl rfl
  | @closed _ id before after closes settled =>
      obtain ⟨unreported, recorded⟩ := closes.unreported
      intro behind other earlier
      by_cases same : other = id
      · subst other
        refine ⟨fun owing => settled whole.symm (owes_iff.mpr owing), ?_⟩
        rw [recorded, unreported]
        exact earlier.once
      · refine earlier.same ?_ (recorded other)
        unfold Scheduler.standing
        rw [closes.others same]
  | reported owes receiver => cases whole
  | finalized closes owes _ noted inside => exact finalized_settles closes owes (inside rfl) noted

end Session

/-! ### Whole programs -/

theorem Interpreter.runLoaded_meets (interpreter : Interpreter) (program : Program)
    (session : Session) :
    (interpreter.runLoaded program session).Meets
      (fun _ after => after.scheduler.onlyActiveQueued = true) fun _ _ => True := by
  unfold runLoaded
  refine Act.note_bind_elim (fun noted _ => ?_) fun _ _ => trivial
  refine Act.bind_elim (fun _ ready _ => ?_) (fun _ _ _ => trivial) fun _ _ => trivial
  have driven := interpreter.run_meets ready
  refine Act.bind_elim (fun _ drained ended => ?_) (fun _ _ _ => trivial) fun _ _ => trivial
  rw [ended] at driven
  rw [Act.scheduler_bind]
  refine Act.note_elim (fun after same => ?_) fun _ _ => trivial
  have stuck : drained.scheduler.onlyActiveQueued = true := driven
  rw [← same.scheduler] at stuck
  exact stuck

/-- Nothing is left to do: the queue is empty, and every task has been finished and finalized
once. -/
structure Session.Concluded (session : Session) : Prop where
  queue : session.scheduler.queue.ids = []
  finished : ∀ id task, session.scheduler.task? id = some task →
    task.state = .finished ∧ task.future.isReady = true ∧ task.isPublished = true ∧
      session.journal.count (.finalized id) = 1
  completed : session.scheduler.statistics.tasksCompleted =
    session.scheduler.statistics.tasksRegistered

theorem Scheduler.queue_empty {scheduler : Scheduler} (idle : scheduler.active = [])
    (stuck : scheduler.onlyActiveQueued = true) : scheduler.queue.ids = [] := by
  unfold Scheduler.onlyActiveQueued Scheduler.isActive at stuck
  rw [idle] at stuck
  cases queued : scheduler.queue.ids with
  | nil => rfl
  | cons first rest =>
      rw [queued] at stuck
      cases stuck

/-- A program that runs to its end leaves tasks accounted for and consistent, and nobody in the
queue. -/
theorem runProgram_leaves {depth : Nat} {program : Program} {settings : Settings} {clock : Clock}
    {budget : Option Nat} {after : Session}
    (ended : (interpreter depth).runProgram program
      { Session.start settings 0 with clock, budget } = .done () after) :
    RunningTasks.nothing.Rest True none after.scheduler ∧ after.scheduler.Consistent ∧
      after.scheduler.queue.ids = [] := by
  have itself := interpreter_deepens (Nat.le_refl depth)
  have fresh : RunningTasks.nothing.Rest True none
      ({ Session.start settings 0 with clock, budget } : Session).scheduler :=
    ⟨Scheduler.accounted_fresh True settings.scheduler, rfl, fun _ impossible => nomatch impossible⟩
  rw [Interpreter.runProgram_eq] at ended
  obtain ⟨_, loaded, load, rest⟩ := Act.bind_done ended
  have same : loaded.scheduler = { settings := settings.scheduler } := by
    revert load
    refine Act.load_elim (motive := fun outcome => outcome = .done _ loaded → _) ?_
    refine fun functions structs after noted => ⟨fun done => ?_, nofun⟩
    cases done
    exact noted.scheduler
  have stuck := (interpreter depth).runLoaded_meets program loaded
  have begins : loaded.scheduler.Consistent :=
    same ▸ Scheduler.consistent_fresh settings.scheduler
  have kept := (itself.related.runLoaded program).consistent begins
  have last := (((RunningTasks.accounts_upholds True).keeps (itself.related.runLoaded program)
    RunningTasks.nothing).done (same ▸ fresh) rest).ok
  rw [rest] at stuck kept
  exact ⟨last, kept, Scheduler.queue_empty last.active stuck⟩

/-- The statistics add up, in every session that anything that can be asked for leads to and at all
moments on the way. A program that runs to its end leaves nothing to do. -/
theorem statistics_add_up :
    (∀ session : Session, session.Reachable → session.scheduler.Tallied) ∧
    ∀ (depth : Nat) (program : Program) (settings : Settings) (clock : Clock) (budget : Option Nat)
      (after : Session),
      (interpreter depth).runProgram program
          { Session.start settings 0 with clock, budget } = .done () after →
        after.scheduler.Tallied ∧ after.Concluded := by
  have fresh (settings : SchedulerSettings) : Scheduler.Tallied { settings } :=
    ⟨rfl, rfl, rfl, rfl, rfl, fun _ impossible => (nomatch impossible), Nat.le_refl 0⟩
  constructor
  · intro session reachable
    refine @Session.Reachable.upholds (fun session => session.scheduler.Tallied) ?_ ?_ _ reachable
    · exact fun settings tick => fresh settings.scheduler
    · exact fun before after proceeds tallied => proceeds.tallied tallied
  · intro depth program settings clock budget after ended
    have proceeds := runProgram_proceeds depth program
      { Session.start settings 0 with clock, budget }
    rw [ended] at proceeds
    have tallied : after.scheduler.Tallied := Session.Proceeds.tallied proceeds (fresh settings.scheduler)
    -- A program that has come to its end has nothing begun and not ended, so that no task is
    -- behind.
    have settled (id : TaskId) : after.Settled 0 id :=
      Session.Proceeds.settles proceeds 0 id ⟨fun impossible => (nomatch impossible), rfl⟩
    obtain ⟨rests, consistent, empty⟩ := runProgram_leaves ended
    have finished (id : TaskId) (task : Task) (found : after.scheduler.task? id = some task) :
        task.isFinished = true ∧ task.isPublished = true ∧
          after.journal.count (.finalized id) = 1 := by
      have ended : task.isFinished = true := by
        refine (Bool.eq_false_or_eq_true task.isFinished).resolve_right fun unfinished => ?_
        rcases rests.accounted.covered id ⟨task, found, unfinished⟩ with queued | runs | impossible
        · rw [empty] at queued
          cases queued
        · rw [show after.scheduler.active = [] from rests.active] at runs
          cases runs
        · cases impossible
      have standing : after.scheduler.standing id = (true, task.isPublished) := by
        unfold Scheduler.standing
        rw [found]
        exact Prod.ext ended rfl
      have published : task.isPublished = true := by
        refine (Bool.eq_false_or_eq_true task.isPublished).resolve_right fun unpublished => ?_
        rw [unpublished] at standing
        exact (settled id).paid standing
      have once := (settled id).once
      rw [standing, published] at once
      exact ⟨ended, published, once⟩
    refine ⟨tallied, empty, fun id task found => ?_, ?_⟩
    · obtain ⟨ended, published, once⟩ := finished id task found
      refine ⟨?_, ?_, published, once⟩
      · rw [Task.state, if_pos ended]
      · refine (consistent id task.progress ?_).ready.trans ended
        unfold Scheduler.progress?
        rw [found]
        rfl
    · rw [tallied.completed, tallied.registered]
      refine List.countP_eq_length.mpr fun task member => ?_
      obtain ⟨place, known, rfl⟩ := List.getElem_of_mem member
      exact (finished ⟨place⟩ _ (List.getElem?_eq_getElem known)).2.1

def startingOne : Program where
  structs := []
  functions := [{ name := "work", params := [], body := [.yield], isAsync := true, owner := none }]
  main := [.expression (.call "work" [])]

theorem statistics_add_up_startingOne :
    (Session.start {} 0).scheduler.Tallied ∧
    ∃ after, (interpreter 6).runProgram startingOne (Session.start {} 0) = .done () after ∧
      after.Concluded ∧ after.scheduler.tasks.length = 1 := by
  have one : ((interpreter 6).runProgram startingOne (Session.start {} 0)).session.scheduler.tasks.length
      = 1 := by decide +kernel
  have ends : ((interpreter 6).runProgram startingOne (Session.start {} 0)).isDone = true := by
    decide +kernel
  obtain ⟨_, run⟩ := Outcome.eq_done ends
  exact ⟨statistics_add_up.1 _ (.start {} 0), _, run,
    (statistics_add_up.2 6 startingOne {} {} none _ run).2, one⟩

end CooperativeTasks
