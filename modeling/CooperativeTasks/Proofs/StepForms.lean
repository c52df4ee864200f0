import CooperativeTasks.Proofs.QueueInvariant

set_option autoImplicit false

/-! What a step comes to.

Until it runs a statement, a step reads and changes the scheduler and lets at most one moment pass.
So there are few forms that it can take, and which of them it takes is settled by the session it
starts in, whatever its budget. -/

namespace CooperativeTasks

/-- No task has been queued, taken, entered, left, registered or finished. -/
structure Scheduler.InPlace (before after : Scheduler) : Prop where
  queue : after.queue = before.queue
  ids : after.ids = before.ids
  active : after.active = before.active
  tasks : after.tasks.length = before.tasks.length
  unfinished : ∀ id, after.Unfinished id ↔ before.Unfinished id

namespace Scheduler.InPlace

theorem refl (scheduler : Scheduler) : InPlace scheduler scheduler :=
  ⟨rfl, rfl, rfl, rfl, fun _ => Iff.rfl⟩

theorem trans {first second third : Scheduler} (left : InPlace first second)
    (right : InPlace second third) : InPlace first third :=
  ⟨right.queue.trans left.queue, right.ids.trans left.ids, right.active.trans left.active,
    right.tasks.trans left.tasks, fun id => (right.unfinished id).trans (left.unfinished id)⟩

theorem modifyTask {change : Task → Task}
    (keeps : ∀ task, (change task).isFinished = task.isFinished) (id : TaskId)
    (scheduler : Scheduler) : InPlace scheduler (scheduler.modifyTask id change) :=
  ⟨rfl, rfl, rfl, List.length_modify .., fun other => unfinished_modifyTask_iff keeps id other _⟩

theorem ofAlike {before after : Scheduler} (alike : before.Alike after) : InPlace before after :=
  ⟨alike.queue, alike.ids, alike.active, alike.tasks, alike.unfinished⟩

end Scheduler.InPlace

theorem Scheduler.Accounted.inPlace {strict : Prop} {popped : Option TaskId}
    {before after : Scheduler} (accounted : before.Accounted strict popped)
    (same : before.InPlace after) : after.Accounted strict popped :=
  accounted.transfer same.queue same.ids same.active same.tasks same.unfinished

/-- A step tells at once how its task stands, with or without a record of it, or it runs a statement
of the task. Which of these it is does not depend on the budget. -/
inductive Interpreter.StepForm (interpreter : Interpreter) (action : Act StepStatus) (id : TaskId)
    (session : Session) : Prop where
  | told (status : StepStatus) (start : Session) (silent : start.journal = session.journal)
      (ends : status = .done → ¬ start.scheduler.Unfinished id)
      (same : ∀ budget, action { session with budget } = .done status { start with budget })
  | noted (status : StepStatus) (start : Session) (event : Event) (aside : event.isOfQueue = false)
      (same : ∀ budget, action { session with budget } =
        (do
          Act.note event
          return status : Act StepStatus) { start with budget })
  | runs (task : Task) (statement : Stmt) (start : Session) (event : Event)
      (aside : event.isOfQueue = false) (inPlace : session.scheduler.InPlace start.scheduler)
      (found : start.scheduler.task? id = some (stepCounted task))
      (same : ∀ budget, action { session with budget } =
        (do
          Act.note event
          interpreter.stepping id task statement : Act StepStatus) { start with budget })

namespace Interpreter

theorem StepForm.after {interpreter : Interpreter} {action action' : Act StepStatus} {id : TaskId}
    {session between : Session}
    (form : interpreter.StepForm action' id between) (silent : between.journal = session.journal)
    (inPlace : session.scheduler.InPlace between.scheduler)
    (same : ∀ budget, action { session with budget } = action' { between with budget }) :
    interpreter.StepForm action id session := by
  cases form with
  | told status start silent' ends same' =>
      exact .told status start (silent'.trans silent) ends fun budget =>
        (same budget).trans (same' budget)
  | noted status start event aside same' =>
      exact .noted status start event aside fun budget => (same budget).trans (same' budget)
  | runs task statement start event aside inPlace' found same' =>
      exact .runs task statement start event aside (inPlace.trans inPlace') found fun budget =>
        (same budget).trans (same' budget)

variable (interpreter : Interpreter)

theorem not_unfinished_of_none {scheduler : Scheduler} {id : TaskId}
    (gone : scheduler.task? id = none) : ¬ scheduler.Unfinished id := by
  rintro ⟨task, found, _⟩
  rw [gone] at found
  cases found

theorem runStatement_form (id : TaskId) (reading : Nat) (session : Session) :
    interpreter.StepForm (interpreter.runStatement id reading) id session := by
  have started : session.scheduler.InPlace (session.onTask id Task.start).scheduler := by
    refine .modifyTask (fun task => ?_) id _
    unfold Task.start
    split <;> rfl
  cases found : (session.onTask id Task.start).scheduler.task? id with
  | none =>
      refine .told .done (session.onTask id Task.start) rfl (fun _ => not_unfinished_of_none found)
        fun budget => ?_
      exact @runStatement_unknown interpreter id reading { session with budget } found
  | some task =>
      have known (budget : Option Nat) :
          ({ session with budget }.onTask id Task.start).scheduler.task? id = some task := found
      cases present : task.statements[task.counter]? with
      | none =>
          refine .told .done ((session.onTask id Task.start).onTask id (Task.complete .void)) rfl
            (fun _ => ?_) fun budget => ?_
          · exact Scheduler.not_unfinished_complete id (fun _ => rfl) _
          · exact runStatement_exhausted (known budget) present
      | some statement =>
          refine .runs task statement (announcing id (session.onTask id Task.start))
            (.stepped id task.counter reading) rfl ?_ ?_ fun budget => ?_
          · refine started.trans (.trans ?_ (.ofAlike (RunningTasks.announced_alike id _)))
            apply Scheduler.InPlace.modifyTask
            exact fun _ => rfl
          · change ((session.onTask id Task.start).scheduler.modifyTask id stepCounted).task? id = _
            rw [Scheduler.task?_modifyTask_self, found]
            rfl
          · exact runStatement_executing (known budget) present

theorem stepReady_form (id : TaskId) (session : Session) :
    interpreter.StepForm (interpreter.stepReady id) id session := by
  cases found : session.scheduler.task? id with
  | none =>
      refine .told .done session.ticked rfl (fun _ => not_unfinished_of_none found) fun budget => ?_
      exact @stepReady_unknown interpreter id { session with budget } found
  | some task =>
      have known (budget : Option Nat) : { session with budget }.scheduler.task? id = some task :=
        found
      cases late : task.deadline.any (· ≤ session.clock.now) with
      | true =>
          refine .noted .done (expiring id session.ticked) (.timedOut id) rfl fun budget => ?_
          exact stepReady_overdue (known budget) late
      | false =>
          cases asleep : task.wakeAt.any (session.clock.now < ·) with
          | true =>
              refine .told .blocked (blocking session.ticked) rfl (fun impossible => ?_)
                fun budget => ?_
              · cases impossible
              · exact stepReady_asleep (known budget) late asleep
          | false =>
              cases body : task.body with
              | some function =>
                  refine (interpreter.runStatement_form id session.clock.now
                    (session.ticked.onTask id woken)).after rfl ?_ fun budget => ?_
                  · apply Scheduler.InPlace.modifyTask
                    exact fun _ => rfl
                  · exact stepReady_embodied (known budget) late asleep body
              | none =>
                  cases timer : task.wakeAt.isSome with
                  | true =>
                      refine .noted .done ((session.ticked.onTask id woken).onTask id
                        (Task.complete .void)) (.timerFired id) rfl fun budget => ?_
                      rw [stepReady_bodyless (known budget) late asleep body, if_pos timer]
                      rfl
                  | false =>
                      refine .told .done ((session.ticked.onTask id woken).onTask id
                        (Task.complete .void)) rfl (fun _ => ?_) fun budget => ?_
                      · exact Scheduler.not_unfinished_complete id (fun _ => rfl) _
                      · rw [stepReady_bodyless (known budget) late asleep body, timer]
                        rfl

theorem step_form (id : TaskId) (session : Session) :
    interpreter.StepForm (interpreter.step id) id session := by
  cases found : session.scheduler.task? id with
  | none =>
      refine .told .done session rfl (fun _ => not_unfinished_of_none found) fun budget => ?_
      exact @step_unknown interpreter id { session with budget } found
  | some task =>
      have known (budget : Option Nat) : { session with budget }.scheduler.task? id = some task :=
        found
      cases finished : task.isFinished with
      | true =>
          refine .told .done session rfl (fun _ => ?_) fun budget => ?_
          · rintro ⟨other, same, unfinished⟩
            rw [found] at same
            cases same
            rw [finished] at unfinished
            cases unfinished
          · exact step_finished (known budget) finished
      | false =>
          cases mark : task.waitingFor with
          | none =>
              refine (interpreter.stepReady_form id session).after rfl (.refl _) fun budget => ?_
              exact step_free (known budget) finished mark
          | some awaited =>
              cases ended : session.scheduler.isFinished awaited with
              | true =>
                  refine (interpreter.stepReady_form id
                    (session.onTask id fun task => { task with waitingFor := none })).after rfl ?_
                    fun budget => ?_
                  · apply Scheduler.InPlace.modifyTask
                    exact fun _ => rfl
                  · exact step_freed (known budget) finished mark ended
              | false =>
                  refine .noted .blocked (blocking session) (.stillWaiting id awaited) rfl
                    fun budget => ?_
                  exact step_waiting (known budget) finished mark ended

end Interpreter

end CooperativeTasks
