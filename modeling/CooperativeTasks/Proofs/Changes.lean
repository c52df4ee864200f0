import CooperativeTasks.Proofs.Endings

set_option autoImplicit false

/-! Turns of the queue as sequences of small changes.

What is done with tasks, from setting a timer to a whole turn of the queue, is put together of
single changes. None of them looks at the budget, and none changes the terms that a task has been
registered with. A relation of actions that has such changes and is kept where actions are joined
has the turns of two interpreters, if it has the statements that they execute. -/

namespace CooperativeTasks

variable {α β : Type}

/-! ### Terms -/

/-- What a task is registered with, and the variable that its future goes to. -/
structure Task.Terms where
  body : Option FunctionDecl
  autoYield : Bool
  futureSite : Option BindingSite

def Task.terms (task : Task) : Task.Terms where
  body := task.body
  autoYield := task.autoYield
  futureSite := task.futureSite

theorem Task.terms_start (task : Task) : task.start.terms = task.terms := by
  unfold Task.start
  split <;> rfl

namespace Scheduler

def terms? (id : TaskId) (scheduler : Scheduler) : Option Task.Terms :=
  (scheduler.task? id).map Task.terms

theorem terms?_modifyTask {change : Task → Task} (keeps : ∀ task, (change task).terms = task.terms)
    (id other : TaskId) (scheduler : Scheduler) :
    (scheduler.modifyTask id change).terms? other = scheduler.terms? other :=
  view_modifyTask (Option.map Task.terms) (fun task => congrArg some (keeps task)) id other scheduler

end Scheduler

/-! ### Changes -/

/-- The relation has every change that leaves the terms of tasks as they are and does not look at
the budget, and is kept where actions are joined. -/
structure Act.Changing (rel : (α : Type) → Act α → Act α → Prop) : Prop where
  pure {α : Type} (value : α) : rel α (Pure.pure value) (Pure.pure value)
  raise {α : Type} (signal : Signal) : rel α (Act.raise signal) (Act.raise signal)
  moment : rel Unit Act.moment Act.moment
  read {α : Type} {view : Session → α}
    (blind : ∀ session budget, view { session with budget } = view session) :
    rel α (Act.read view) (Act.read view)
  update {change : Session → Session}
    (blind : ∀ session budget, change { session with budget } = { change session with budget })
    (keeps : ∀ session id, (change session).scheduler.terms? id = session.scheduler.terms? id) :
    rel Unit (Act.update change) (Act.update change)
  bind {α β : Type} {first first' : Act α} {next next' : α → Act β} (head : rel α first first')
    (tail : ∀ value, rel β (next value) (next' value)) : rel β (first >>= next) (first' >>= next')
  attempt {α : Type} {action action' : Act α} (inner : rel α action action') :
    rel _ (Act.attempt action) (Act.attempt action')

namespace Act.Changing

variable {rel : (α : Type) → Act α → Act α → Prop} (changing : Act.Changing rel)

include changing

theorem executor : rel Executor Act.executor Act.executor :=
  changing.read fun _ _ => rfl

theorem scheduler : rel Scheduler Act.scheduler Act.scheduler :=
  changing.read fun _ _ => rfl

theorem updateExecutor (change : Executor → Executor) :
    rel Unit (Act.updateExecutor change) (Act.updateExecutor change) :=
  changing.update (fun _ _ => rfl) fun _ _ => rfl

theorem updateScheduler {change : Scheduler → Scheduler}
    (keeps : ∀ scheduler, (change scheduler).tasks = scheduler.tasks) :
    rel Unit (Act.updateScheduler change) (Act.updateScheduler change) := by
  refine changing.update (fun _ _ => rfl) fun session id => ?_
  change (change session.scheduler).terms? id = _
  unfold Scheduler.terms? Scheduler.task?
  rw [keeps]

theorem updateTasks {change : Session → Session}
    (blind : ∀ session budget, change { session with budget } = { change session with budget })
    (id : TaskId) {changeTask : Session → Task → Task}
    (terms : ∀ session task, (changeTask session task).terms = task.terms)
    (changes : ∀ session, (change session).scheduler.tasks =
      (session.scheduler.modifyTask id (changeTask session)).tasks) :
    rel Unit (Act.update change) (Act.update change) := by
  refine changing.update blind fun session other => ?_
  have same : (change session).scheduler.terms? other =
      (session.scheduler.modifyTask id (changeTask session)).terms? other := by
    unfold Scheduler.terms? Scheduler.task?
    rw [changes]
  rw [same, Scheduler.terms?_modifyTask (terms session)]

theorem modifyTask (id : TaskId) {change : Task → Task}
    (terms : ∀ task, (change task).terms = task.terms) :
    rel Unit (Act.updateScheduler (Scheduler.modifyTask id change))
      (Act.updateScheduler (Scheduler.modifyTask id change)) :=
  changing.updateTasks (fun _ _ => rfl) id (fun _ => terms) fun _ => rfl

theorem count (change : Statistics → Statistics) :
    rel Unit (Act.count change) (Act.count change) :=
  changing.updateScheduler fun _ => rfl

theorem ofAttempt (outcome : Except Signal α) :
    rel α (Act.ofAttempt outcome) (Act.ofAttempt outcome) := by
  cases outcome with
  | ok value => exact changing.pure value
  | error signal => exact changing.raise signal

theorem note (event : Event) : rel Unit (Act.note event) (Act.note event) := by
  rw [Act.note_eq]
  refine changing.bind (changing.update (fun _ _ => rfl) fun _ _ => rfl) fun _ => changing.moment

/-! ### Timers -/

theorem readClock : rel Nat Act.readClock Act.readClock := by
  rw [Act.readClock_eq]
  refine changing.bind (changing.read fun _ _ => rfl) fun now => ?_
  exact changing.bind (changing.update (fun _ _ => rfl) fun _ _ => rfl) fun _ => changing.pure now

theorem sleepTask (id : TaskId) (millis : Nat) :
    rel Unit (Act.sleepTask id millis) (Act.sleepTask id millis) := by
  refine changing.bind changing.readClock fun now => ?_
  refine changing.bind changing.scheduler fun scheduler => ?_
  split
  · exact changing.bind (changing.modifyTask id fun _ => rfl) fun _ => changing.note _
  · exact changing.pure ()

theorem setTimeout (id : TaskId) (millis : Nat) :
    rel Unit (Act.setTimeout id millis) (Act.setTimeout id millis) := by
  refine changing.bind changing.readClock fun now => ?_
  refine changing.bind changing.scheduler fun scheduler => ?_
  split
  · exact changing.bind (changing.modifyTask id fun _ => rfl) fun _ => changing.note _
  · exact changing.pure ()

theorem idle (swept : List TaskId) :
    rel Unit (Interpreter.idle swept) (Interpreter.idle swept) := by
  refine changing.bind (changing.count _) fun _ => changing.bind changing.scheduler fun _ => ?_
  exact changing.bind (changing.update (fun _ _ => rfl) fun _ _ => rfl) fun _ => changing.note _

/-! ### Publishing -/

theorem modifySite (site : BindingSite) (change : Scope → Scope) :
    rel Unit (Act.update (Session.modifySite site change))
      (Act.update (Session.modifySite site change)) := by
  refine changing.update (fun session budget => ?_) fun session id => ?_
  · have saved : { session with budget }.savedSiteScope? site = session.savedSiteScope? site := rfl
    unfold Session.modifySite
    rw [saved]
    dsimp only
    cases session.executor.scopes.modifyFrame? site.frame change with
    | some scopes => rfl
    | none => cases site.owner <;> cases session.savedSiteScope? site <;> rfl
  · unfold Session.modifySite
    split
    · rfl
    · split
      · apply Scheduler.terms?_modifyTask
        exact fun _ => rfl
      · rfl

theorem finalize (id : TaskId) : rel Unit (Act.finalize id) (Act.finalize id) := by
  have closed : Act.FinalizeClosed id fun action => rel Unit action action :=
    { pure := changing.pure ()
      bind := fun head tail => changing.bind head fun _ => tail
      target := fun _ _ tail => changing.bind (changing.read fun _ _ => rfl) tail
      modifySite := fun site change _ => changing.modifySite site change
      futureSiteGone := fun _ => changing.note _
      receiverSiteGone := fun _ => changing.note _
      scheduler := changing.bind changing.scheduler
      publish := fun _ => changing.modifyTask id fun _ => rfl
      count := changing.count
      finalized := changing.note _ }
  exact closed.finalize

/-! ### Brackets -/

theorem calling (name : String) (scope : Scope) {body body' : Act Unit}
    (inner : rel Unit body body') :
    rel _ (Act.calling name scope body) (Act.calling name scope body') := by
  refine changing.bind changing.executor fun before => ?_
  dsimp only
  split
  · exact changing.raise _
  · refine changing.bind (changing.note _) fun _ => ?_
    refine changing.bind (changing.updateExecutor _) fun _ => ?_
    refine changing.bind (changing.attempt inner) fun outcome => ?_
    refine changing.bind changing.executor fun left => ?_
    refine changing.bind (changing.updateExecutor _) fun _ => ?_
    split
    · exact changing.pure _
    · exact changing.pure _
    · exact changing.raise _

theorem awaiting (id : TaskId) {drive drive' : Act Unit} (inner : rel Unit drive drive') :
    rel Unit (Act.awaiting id drive) (Act.awaiting id drive') := by
  refine changing.bind changing.executor fun executor => ?_
  refine changing.bind (changing.note _) fun _ => ?_
  cases executor.currentTask with
  | none =>
      refine changing.bind (changing.attempt inner) fun outcome => ?_
      exact changing.bind (changing.note _) fun _ => changing.ofAttempt outcome
  | some waiter =>
      refine changing.bind (changing.modifyTask waiter fun _ => rfl) fun _ => ?_
      refine changing.bind (changing.attempt inner) fun outcome => ?_
      refine changing.bind (changing.modifyTask waiter fun _ => rfl) fun _ => ?_
      exact changing.bind (changing.note _) fun _ => changing.ofAttempt outcome

end Act.Changing

/-! ### Turns of the queue -/

namespace Interpreter

theorem cycle_eq (interpreter : Interpreter) :
    interpreter.cycle =
      (do
        let scheduler ← Act.scheduler
        match scheduler.queue.ids with
        | [] => return none
        | id :: rest => do
            Act.update (Session.taking rest)
            Act.note (.dequeued id)
            if id ∈ scheduler.active then
              requeue id
              if (← Act.scheduler).onlyActiveQueued then
                return none
              else
                return some (id, .blocked)
            else
              interpreter.step id >>= afterStep id) := by
  funext session
  rw [Act.scheduler_bind]
  cases ids : session.scheduler.queue.ids with
  | nil => exact interpreter.cycle_empty ids
  | cons id rest =>
      dsimp only
      rw [Act.update_bind]
      by_cases running : id ∈ session.scheduler.active
      · have front : session.scheduler.dequeue? =
            some (id, (session.taking rest).scheduler) := Scheduler.dequeue?_cons ids
        have active : (session.taking rest).scheduler.isActive id = true := decide_eq_true running
        rw [cycle, Act.scheduler_bind, front]
        dsimp only
        rw [active, if_pos rfl, if_pos running, Act.updateScheduler_bind]
        rfl
      · rw [interpreter.cycle_taking ids running, if_neg running]

end Interpreter

namespace Act.Changing

variable {rel : (α : Type) → Act α → Act α → Prop} (changing : Act.Changing rel)
  {short long : Interpreter}
  (exec : ∀ path statement, rel Unit (short.exec path statement) (long.exec path statement))

include changing exec

theorem stepping (id : TaskId) (task : Task) (statement : Stmt) :
    rel _ (short.stepping id task statement) (long.stepping id task statement) := by
  rw [Interpreter.stepping_eq, Interpreter.stepping_eq]
  refine changing.bind changing.executor fun before => ?_
  refine changing.bind (changing.update (fun _ _ => rfl) fun _ _ => rfl) fun _ => ?_
  refine changing.bind (changing.attempt (exec _ statement)) fun outcome => ?_
  unfold Interpreter.settling
  split
  · refine changing.bind ?_ fun _ => ?_
    · apply changing.updateTasks (fun _ _ => rfl) id ?_ fun _ => rfl
      exact fun _ _ => rfl
    · split
      · exact changing.bind (changing.modifyTask id fun _ => rfl) fun _ => changing.pure _
      · exact changing.pure _
  · refine changing.bind ?_ fun _ => changing.pure _
    apply changing.updateTasks (fun _ _ => rfl) id ?_ fun _ => rfl
    exact fun _ _ => rfl
  · refine changing.bind (changing.update (fun _ _ => rfl) fun left other => ?_)
      fun _ => changing.pure _
    refine (Scheduler.terms?_modifyTask ?_ id other _).trans
      (Scheduler.terms?_modifyTask ?_ id other (left.leavingTask id task before).scheduler)
    · exact fun _ => rfl
    · exact fun _ => rfl
  · exact changing.bind (changing.update (fun _ _ => rfl) fun _ _ => rfl) fun _ => changing.raise _

theorem executing (id : TaskId) (task : Task) (statement : Stmt) (reading : Nat) :
    rel _ (short.executing id task statement reading)
      (long.executing id task statement reading) := by
  refine changing.bind ?_ fun _ => ?_
  · apply changing.updateTasks (fun _ _ => rfl) id ?_ fun _ => rfl
    exact fun _ _ => rfl
  · exact changing.bind (changing.note _) fun _ => changing.stepping exec id task statement

theorem runStatement (id : TaskId) (reading : Nat) :
    rel _ (short.runStatement id reading) (long.runStatement id reading) := by
  rw [Interpreter.runStatement_eq, Interpreter.runStatement_eq]
  refine changing.bind (changing.modifyTask id Task.terms_start) fun _ => ?_
  refine changing.bind changing.scheduler fun scheduler => ?_
  split
  · exact changing.pure _
  · split
    · exact changing.bind (changing.modifyTask id fun _ => rfl) fun _ => changing.pure _
    · exact changing.executing exec id _ _ reading

theorem stepReady (id : TaskId) : rel _ (short.stepReady id) (long.stepReady id) := by
  refine changing.bind changing.readClock fun now => ?_
  refine changing.bind changing.scheduler fun scheduler => ?_
  split
  · exact changing.pure _
  · split
    · refine changing.bind (changing.modifyTask id fun _ => rfl) fun _ => ?_
      refine changing.bind (changing.count _) fun _ => ?_
      exact changing.bind (changing.note _) fun _ => changing.pure _
    · split
      · exact changing.bind (changing.count _) fun _ => changing.pure _
      · refine changing.bind (changing.modifyTask id fun _ => rfl) fun _ => ?_
        split
        · exact changing.runStatement exec id now
        · refine changing.bind (changing.modifyTask id fun _ => rfl) fun _ => ?_
          dsimp only
          split
          · exact changing.bind (changing.note _) fun _ => changing.pure _
          · exact changing.pure _

theorem step (id : TaskId) : rel _ (short.step id) (long.step id) := by
  refine changing.bind changing.scheduler fun scheduler => ?_
  split
  · exact changing.pure _
  · split
    · exact changing.pure _
    · split
      · exact changing.stepReady exec id
      · split
        · exact changing.bind (changing.modifyTask id fun _ => rfl) fun _ =>
            changing.stepReady exec id
        · refine changing.bind (changing.count _) fun _ => ?_
          exact changing.bind (changing.note _) fun _ => changing.pure _

theorem cycle : rel _ short.cycle long.cycle := by
  have requeue (id : TaskId) : rel Unit (Interpreter.requeue id) (Interpreter.requeue id) :=
    changing.bind (changing.updateScheduler fun _ => rfl) fun _ => changing.note _
  rw [Interpreter.cycle_eq, Interpreter.cycle_eq]
  refine changing.bind changing.scheduler fun scheduler => ?_
  split
  · exact changing.pure none
  · rename_i id rest _
    refine changing.bind (changing.update (fun _ _ => rfl) fun _ _ => rfl) fun _ => ?_
    refine changing.bind (changing.note _) fun _ => ?_
    split
    · refine changing.bind (requeue id) fun _ => ?_
      refine changing.bind changing.scheduler fun scheduler => ?_
      split
      · exact changing.pure none
      · exact changing.pure _
    · refine changing.bind (changing.step exec id) fun status => ?_
      cases status with
      | done => exact changing.bind (changing.finalize id) fun _ => changing.pure _
      | pending => exact changing.bind (requeue id) fun _ => changing.pure _
      | blocked => exact changing.bind (requeue id) fun _ => changing.pure _

end Act.Changing

end CooperativeTasks
