import CooperativeTasks.Proofs.Becoming
import CooperativeTasks.Proofs.SingleTask
import CooperativeTasks.Proofs.Sites

set_option autoImplicit false

/-! Where the instance of an asynchronous method ends up.

A method call pins the variable it is made on to the scope that binds it, and to the task that makes
the call. Nothing that happens until the task is finalized touches what was pinned, and finalizing
writes to that scope: on the stack, or saved in that task. -/

namespace CooperativeTasks

/-! ### What is kept until then -/

/-- Identities are handed out in the order in which tasks are registered. -/
def Scheduler.Numbered (scheduler : Scheduler) : Prop :=
  scheduler.ids.next.index = scheduler.tasks.length

/-- Every task is still registered, and reports as before unless it has reported. -/
def Scheduler.Retains (before after : Scheduler) : Prop :=
  ∀ id task, before.task? id = some task →
    ∃ later, after.task? id = some later ∧
      (later.isPublished = false → task.isPublished = false ∧ later.receiver = task.receiver)

namespace Scheduler

theorem Numbered.modifyTask {scheduler : Scheduler} (numbered : scheduler.Numbered) (id : TaskId)
    (change : Task → Task) : (scheduler.modifyTask id change).Numbered := by
  unfold Numbered
  rw [show (scheduler.modifyTask id change).tasks.length = scheduler.tasks.length from
    List.length_modify ..]
  exact numbered

theorem Numbered.register {scheduler : Scheduler} (numbered : scheduler.Numbered) (task : Task) :
    (scheduler.register task).2.Numbered := by
  unfold Numbered at *
  unfold Scheduler.register TaskIds.take
  simp [numbered]

namespace Retains

theorem refl (scheduler : Scheduler) : Retains scheduler scheduler :=
  fun _ task found => ⟨task, found, fun unpublished => ⟨unpublished, rfl⟩⟩

theorem trans {first second third : Scheduler} (earlier : Retains first second)
    (later : Retains second third) : Retains first third := by
  intro id task found
  obtain ⟨middle, known, kept⟩ := earlier id task found
  obtain ⟨last, reached, still⟩ := later id middle known
  refine ⟨last, reached, fun unpublished => ?_⟩
  obtain ⟨between, same⟩ := still unpublished
  obtain ⟨start, equal⟩ := kept between
  exact ⟨start, same.trans equal⟩

theorem of_tasks {before after : Scheduler} (same : after.tasks = before.tasks) :
    Retains before after := by
  intro id task found
  refine ⟨task, ?_, fun unpublished => ⟨unpublished, rfl⟩⟩
  unfold task?
  rw [same]
  exact found

theorem modifyTask {change : Task → Task}
    (spares : ∀ task, (change task).isPublished = false →
      task.isPublished = false ∧ (change task).receiver = task.receiver)
    (id : TaskId) (scheduler : Scheduler) : Retains scheduler (scheduler.modifyTask id change) := by
  intro other task found
  by_cases same : other = id
  · subst other
    exact ⟨change task, by rw [task?_modifyTask_self, found]; rfl, spares task⟩
  · exact ⟨task, by rw [task?_modifyTask_of_ne same]; exact found,
      fun unpublished => ⟨unpublished, rfl⟩⟩

theorem spared {change : Task → Task} (spares : Task.Spares change) (id : TaskId)
    (scheduler : Scheduler) : Retains scheduler (scheduler.modifyTask id change) := by
  refine modifyTask (fun task unpublished => ?_) id scheduler
  rw [(spares task).2] at unpublished
  exact ⟨unpublished, (spares task).1⟩

theorem register (task : Task) (scheduler : Scheduler) :
    Retains scheduler (scheduler.register task).2 := by
  intro id known found
  have within : id.index < scheduler.tasks.length := (List.getElem?_eq_some_iff.mp found).1
  exact ⟨known, by rw [task?_register_of_lt within]; exact found,
    fun unpublished => ⟨unpublished, rfl⟩⟩

end Retains

end Scheduler

namespace Session

theorem numbered_modifySite {session : Session} (numbered : session.scheduler.Numbered)
    (site : BindingSite) (change : Scope → Scope) :
    (session.modifySite site change).scheduler.Numbered := by
  rcases modifySite_cases site change session with
    ⟨scopes, _, same⟩ | ⟨_, owner, scope, _, _, _, same⟩ | ⟨_, same⟩
  · rw [same]
    exact numbered
  · rw [same]
    exact numbered.modifyTask owner _
  · rw [same]
    exact numbered

theorem retains_modifySite (site : BindingSite) (change : Scope → Scope) (session : Session) :
    session.scheduler.Retains (session.modifySite site change).scheduler := by
  rcases modifySite_cases site change session with
    ⟨scopes, _, same⟩ | ⟨_, owner, scope, _, _, _, same⟩ | ⟨_, same⟩
  · rw [same]
    exact .refl session.scheduler
  · rw [same]
    apply Scheduler.Retains.spared
    exact fun _ => ⟨rfl, rfl⟩
  · rw [same]
    exact .refl session.scheduler

theorem Becomes.numbered {before after : Session} (becomes : before.Becomes after)
    (numbered : before.scheduler.Numbered) : after.scheduler.Numbered := by
  induction becomes with
  | refl session => exact numbered
  | trans _ _ earlier later => exact later (earlier numbered)
  | aside _ scheduler =>
      rw [scheduler]
      exact numbered
  | written writes session => exact numbered
  | globalSet name value session => exact numbered
  | declared functions structs session => exact numbered
  | shown positions output session => exact numbered
  | queued queue statistics session => exact numbered
  | registered fresh session => exact numbered.register _
  | marked id spares session => exact numbered.modifyTask id _
  | completed id payload session idle => exact numbered.modifyTask id _
  | started idle => exact numbered.modifyTask _ _
  | published id receiver session => exact numbered.modifyTask id _
  | siteChanged site keeps session => exact numbered_modifySite numbered site _
  | called new session => exact numbered
  | returned new _ _ inside => exact inside numbered
  | entered entering => exact numbered
  | faulted entering _ _ inside => exact inside numbered
  | settled entering _ _ spares scope inside =>
      exact Scheduler.Numbered.modifyTask (inside numbered) _ _

theorem Becomes.retains {before after : Session} (becomes : before.Becomes after) :
    before.scheduler.Retains after.scheduler := by
  induction becomes with
  | refl session => exact .refl session.scheduler
  | trans _ _ earlier later => exact earlier.trans later
  | aside _ scheduler => exact .of_tasks (congrArg Scheduler.tasks scheduler)
  | written writes session => exact .refl session.scheduler
  | globalSet name value session => exact .refl session.scheduler
  | declared functions structs session => exact .refl session.scheduler
  | shown positions output session => exact .refl session.scheduler
  | queued queue statistics session => exact .of_tasks rfl
  | registered fresh session => exact .register _ session.scheduler
  | marked id spares session => exact .spared spares.spares id session.scheduler
  | completed id payload session idle =>
      apply Scheduler.Retains.spared
      exact fun _ => ⟨rfl, rfl⟩
  | @started id session idle =>
      refine .spared (fun task => ?_) id session.scheduler
      unfold Task.start
      split <;> exact ⟨rfl, rfl⟩
  | published id receiver session =>
      apply Scheduler.Retains.modifyTask
      intro task impossible
      cases impossible
  | siteChanged site keeps session => exact retains_modifySite site _ session
  | called new session => exact .refl session.scheduler
  | returned new _ _ inside => exact inside
  | @entered id task session entering => exact .of_tasks rfl
  | @faulted id task before left entering _ _ inside =>
      have enters : before.scheduler.Retains (before.enteringTask id task).scheduler := .of_tasks rfl
      have leaves : left.scheduler.Retains (left.leavingTask id task before.executor).scheduler :=
        .of_tasks rfl
      exact (enters.trans inside).trans leaves
  | @settled id task before left entering _ _ change spares scope inside =>
      have enters : before.scheduler.Retains (before.enteringTask id task).scheduler := .of_tasks rfl
      have leaves : left.scheduler.Retains (left.leavingTask id task before.executor).scheduler :=
        .of_tasks rfl
      exact ((enters.trans inside).trans leaves).trans (.spared spares id _)

end Session

theorem Session.Reachable.numbered {session : Session} (reachable : session.Reachable) :
    session.scheduler.Numbered := by
  refine @holds (fun session => session.scheduler.Numbered) ?_ ?_ ?_ _ reachable
  · intro settings tick
    rfl
  · intro before after becomes numbered
    exact becomes.numbered numbered
  · intro session id site numbered
    exact numbered.modifyTask id _

/-- What comes later in a run: running code goes on, and the calls and steps that it runs in are
left. -/
inductive Session.Onward : Session → Session → Prop where
  | runs {before after : Session} (becomes : before.Becomes after) : Onward before after
  | leavesCall (before : Executor) (left : Session) : Onward left (left.leavingCall before)
  | leavesStep (id : TaskId) (task : Task) (before : Executor) (left : Session) :
      Onward left (left.leavingTask id task before)
  | settles (id : TaskId) {change : Task → Task} (spares : Task.Spares change) (session : Session) :
      Onward session (session.onTask id change)
  | trans {first second third : Session} (earlier : Onward first second)
      (later : Onward second third) : Onward first third

theorem Session.Onward.retains {before after : Session} (onward : before.Onward after) :
    before.scheduler.Retains after.scheduler := by
  induction onward with
  | runs becomes => exact becomes.retains
  | leavesCall before left => exact .refl left.scheduler
  | leavesStep id task before left => exact .of_tasks rfl
  | settles id spares session => exact .spared spares id session.scheduler
  | trans _ _ earlier later => exact earlier.trans later

/-! ### Calls -/

theorem Act.register_done {task : Task} {session after : Session} {id : TaskId}
    (ran : register task session = .done id after) :
    id = session.scheduler.ids.next ∧ after.executor = session.executor ∧
      after.scheduler = (session.scheduler.register task).2 := by
  revert ran
  refine register_elim (motive := fun outcome => outcome = .done id after → _) ?_
  refine fun _ _ same => ⟨fun ran => ?_, nofun⟩
  cases ran
  exact ⟨rfl, same.executor, same.scheduler⟩

/-- A call of an asynchronous method registers a task that knows the instance as it was before the
arguments were evaluated, and the site as it is after. -/
theorem callMethod_registers {depth : Nat} {session after : Session} {receiver method : String}
    {args : List Expr} {typeName : String} {fields : List (String × Value)}
    {function : FunctionDecl} {future : Value} (numbered : session.scheduler.Numbered)
    (resolves : session.executor.scopes.readPlace receiver = .ok (.struct typeName fields))
    (declared : Bindings.get? (typeName ++ "." ++ method) session.executor.functions = some function)
    (async : function.isAsync = true)
    (called : (interpreter depth).callMethod receiver method args session = .done future after) :
    ∃ id task, future = Future.pending.toValue (some id) ∧
      after.scheduler.tasks.length = id.index + 1 ∧ after.scheduler.task? id = some task ∧
      task.receiver = some ⟨.struct typeName fields, after.executor.site? receiver⟩ := by
  have itself := interpreter_deepens (Nat.le_refl depth)
  have known : Interpreter.functionNamed (typeName ++ "." ++ method) session =
      .done function session := by
    unfold Interpreter.functionNamed
    rw [Act.executor_bind, declared]
    rfl
  have read : Act.readPlace receiver session = .done (.struct typeName fields) session := by
    unfold Act.readPlace
    rw [Act.executor_bind, resolves]
    rfl
  unfold Interpreter.callMethod at called
  rw [Act.bind_of_done read] at called
  dsimp only at called
  rw [Act.bind_of_done known] at called
  obtain ⟨values, ready, evaluated, checks⟩ := Act.bind_done called
  obtain ⟨_, checked, arity, calls⟩ := Act.bind_done checks
  obtain rfl : checked = ready := by
    cases fits : checkArity function values <;> rw [fits] at arity <;> cases arity
    rfl
  rw [if_pos async, Act.executor_bind] at calls
  let task := (Task.ofFunction function values).withReceiver (.struct typeName fields)
    (checked.executor.site? receiver)
  obtain ⟨id, registered, registers, hands⟩ := Act.bind_done calls
  obtain ⟨same, executor, scheduler⟩ := Act.register_done registers
  have counted : checked.scheduler.Numbered := by
    have evaluates := (itself.related.evalAll args).becomes session
    rw [evaluated] at evaluates
    exact evaluates.numbered numbered
  have newest : registered.scheduler.tasks.length = id.index + 1 := by
    rw [scheduler, same, counted, Scheduler.length_register]
  have found : registered.scheduler.task? id = some (checked.scheduler.added task) := by
    rw [scheduler, same, Scheduler.task?_register_new counted]
  unfold Act.futureValue Scheduler.futureValue? at hands
  rw [Act.scheduler_bind, found] at hands
  cases hands
  rw [executor]
  exact ⟨id, _, rfl, newest, found, rfl⟩

/-! ### Finalizing -/

/-- Sites point at scopes that bind the same names. -/
def Session.SitesKept (before after : Session) : Prop :=
  ∀ site scope, before.siteScope? site = some scope →
    ∃ later, after.siteScope? site = some later ∧ ∀ name, later.contains name = scope.contains name

namespace Session.SitesKept

theorem of_same {before after : Session} (executor : after.executor = before.executor)
    (saved : ∀ id, after.scheduler.savedScope? id = before.scheduler.savedScope? id) :
    SitesKept before after := by
  intro site scope found
  have same : after.siteScope? site = before.siteScope? site :=
    siteScope?_congr site (by rw [executor]) saved
  exact ⟨scope, same.trans found, fun _ => rfl⟩

theorem trans {first second third : Session} (earlier : SitesKept first second)
    (later : SitesKept second third) : SitesKept first third := by
  intro site scope found
  obtain ⟨middle, here, names⟩ := earlier site scope found
  obtain ⟨last, there, names'⟩ := later site middle here
  exact ⟨last, there, fun name => (names' name).trans (names name)⟩

theorem modifySite {change : Scope → Scope} (keeps : ∀ scope, (change scope).id = scope.id)
    (binds : ∀ scope name, (change scope).contains name = scope.contains name) (site : BindingSite)
    (session : Session) : SitesKept session (session.modifySite site change) := by
  intro other scope found
  rcases siteScope?_modifySite keeps site other with same | altered
  · exact ⟨scope, same.trans found, fun _ => rfl⟩
  · refine ⟨change scope, ?_, binds scope⟩
    rw [altered, found]
    rfl

end Session.SitesKept

theorem Session.budget_modifySite (site : BindingSite) (change : Scope → Scope) (session : Session) :
    (session.modifySite site change).budget = session.budget := by
  rcases modifySite_cases site change session with
    ⟨_, _, same⟩ | ⟨_, _, _, _, _, _, same⟩ | ⟨_, same⟩
  · rw [same]
  · rw [same]
    rfl
  · rw [same]

theorem Session.savedScope?_reporting (id : TaskId) (receiver : Option Receiver) (session : Session)
    (other : TaskId) :
    (session.reporting id receiver).scheduler.savedScope? other =
      session.scheduler.savedScope? other := by
  apply Scheduler.savedScope?_modifyTask
  intro task
  rfl

section

variable {session : Session} (unlimited : session.budget = none)

include unlimited

theorem reportFuture_done (id : TaskId) (future : Value) (site : Option BindingSite) :
    ∃ after, Act.reportFuture id future site session = .done () after ∧ after.budget = none ∧
      session.SitesKept after ∧ (site = none → after = session) := by
  cases site with
  | none => exact ⟨session, rfl, unlimited, .of_same rfl fun _ => rfl, fun _ => rfl⟩
  | some site =>
      unfold Act.reportFuture Act.publishFuture
      change ∃ after, (if (session.siteScope? site).any (Scope.contains site.name) = true then _
        else _ : Act Unit) session = _ ∧ _
      split
      · refine ⟨_, rfl, ?_, ?_, fun impossible => (nomatch impossible)⟩
        · rw [Session.budget_modifySite]
          exact unlimited
        · refine .modifySite (Scope.assignExisting_id site.name future) ?_ site session
          intro scope name
          exact Bindings.contains_replace site.name name future scope.bindings
      · exact ⟨_, Act.note_unlimited unlimited _, unlimited, .of_same rfl fun _ => rfl,
          fun impossible => (nomatch impossible)⟩

theorem reportReceiver_done (id : TaskId) (value : Value) (members : List (String × Value))
    (pinned : Option BindingSite) :
    ∃ after, Act.reportReceiver id value members pinned session = .done () after ∧
      after.budget = none ∧
      (∀ site scope, pinned = some site → session.siteScope? site = some scope →
        scope.contains site.name = true →
        ∃ written, after.siteScope? site = some written ∧ written.get? site.name = some value) ∧
      ((∀ site, pinned = some site → session.siteScope? site = none) →
        after.executor = session.executor ∧ after.scheduler = session.scheduler) := by
  cases pinned with
  | none =>
      exact ⟨session, rfl, unlimited, fun _ _ impossible => (nomatch impossible),
        fun _ => ⟨rfl, rfl⟩⟩
  | some site =>
      have keeps := Scope.writeBack_id site.name value members
      unfold Act.reportReceiver Act.publishReceiver
      change ∃ after, (if (session.siteScope? site).isSome = true then _
        else _ : Act Unit) session = _ ∧ _
      cases target : session.siteScope? site with
      | none =>
          rw [if_neg (by simp)]
          refine ⟨_, Act.note_unlimited unlimited _, unlimited, ?_, fun _ => ⟨rfl, rfl⟩⟩
          intro other scope same found
          cases same
          rw [target] at found
          cases found
      | some scope =>
          rw [if_pos Option.isSome_some]
          refine ⟨_, rfl, ?_, ?_, ?_⟩
          · rw [Session.budget_modifySite]
            exact unlimited
          · intro other held same found present
            cases same
            exact ⟨_, Session.siteScope?_modifySite_self keeps found,
              Scope.get?_writeBack present value members⟩
          · intro gone
            rw [gone site rfl] at target
            cases target

/-- Finalizing writes the instance where it was pinned. It writes it nowhere if it was not pinned or
the scope is gone. -/
theorem finalize_writes_back {id : TaskId} {task : Task}
    (found : session.scheduler.task? id = some task) (finished : task.isFinished = true)
    (unpublished : task.isPublished = false) {value : Value} {pinned : Option BindingSite}
    (reports : task.receiver = some ⟨value, pinned⟩) :
    ∃ ended, Act.finalize id session = .done () ended ∧
      (∀ site scope, pinned = some site → session.siteScope? site = some scope →
        scope.contains site.name = true →
        ∃ written, ended.siteScope? site = some written ∧
          written.get? site.name = some (value.mergeMembers task.receiverMembers)) ∧
      ((∀ site, pinned = some site → session.siteScope? site = none) → task.futureSite = none →
        ended.executor = session.executor ∧
          ∀ other, ended.scheduler.savedScope? other = session.scheduler.savedScope? other) := by
  let merged := value.mergeMembers task.receiverMembers
  let reporting := session.reporting id (some ⟨merged, pinned⟩)
  have merges : task.mergedReceiver = some ⟨merged, pinned⟩ := by
    unfold Task.mergedReceiver
    rw [reports]
    rfl
  have saved := Session.savedScope?_reporting id (some ⟨merged, pinned⟩) session
  have marked : session.SitesKept reporting := .of_same rfl saved
  have begins : reporting.budget = none := unlimited
  -- The future is published before the instance; sites point at the same scopes in between.
  obtain ⟨futured, first, goesOn, kept, quiet⟩ :=
    reportFuture_done begins id (task.future.toValue (some id)) task.futureSite
  obtain ⟨after, second, ends, writes, leaves⟩ :=
    reportReceiver_done goesOn id merged task.receiverMembers pinned
  refine ⟨after.recorded (.finalized id), ?_, ?_, ?_⟩
  · rw [Act.finalize_ready found finished unpublished, merges, Act.bind_apply, first]
    unfold Act.reportInstance
    rw [merges]
    dsimp only
    rw [Act.bind_apply, second]
    exact Act.note_unlimited ends (.finalized id)
  · intro site scope same here present
    obtain ⟨middle, there, names⟩ := (marked.trans kept) site scope here
    obtain ⟨written, last, reads⟩ := writes site middle same there ((names site.name).trans present)
    exact ⟨written, last, reads⟩
  · intro gone alone
    have same : futured = reporting := quiet alone
    rw [same] at leaves
    have pointed (site : BindingSite) : reporting.siteScope? site = session.siteScope? site :=
      Session.siteScope?_congr site rfl saved
    obtain ⟨executor, scheduler⟩ := leaves fun site pins => (pointed site).trans (gone site pins)
    refine ⟨executor, fun other => ?_⟩
    change after.scheduler.savedScope? other = _
    rw [scheduler]
    exact saved other

end

/-- The instance of an asynchronous method reaches the variable it was called on, whatever happens
between the call and the end of its task, as long as the variable was bound under the name that the
call uses and its scope is on the stack or saved in the task that made the call. In no other case
does anything reach any scope. -/
theorem write_back_reaches_pinned_scope {depth : Nat} {session after : Session}
    {receiver method : String} {args : List Expr} {typeName : String}
    {fields : List (String × Value)} {function : FunctionDecl} {future : Value}
    (reachable : session.Reachable)
    (resolves : session.executor.scopes.readPlace receiver = .ok (.struct typeName fields))
    (declared : Bindings.get? (typeName ++ "." ++ method) session.executor.functions = some function)
    (async : function.isAsync = true)
    (called : (interpreter depth).eval (.methodCall receiver method args) session =
      .done future after) :
    ∃ id, future = Future.pending.toValue (some id) ∧
      after.scheduler.tasks.length = id.index + 1 ∧
      ∀ later task, after.Onward later → later.budget = none →
        later.scheduler.task? id = some task → task.isFinished = true → task.isPublished = false →
        ∃ ended, Act.finalize id later = .done () ended ∧
          (∀ site scope, after.executor.site? receiver = some site →
            later.siteScope? site = some scope → scope.contains receiver = true →
            ∃ written, ended.siteScope? site = some written ∧
              written.get? receiver =
                some ((Value.struct typeName fields).mergeMembers task.receiverMembers)) ∧
          ((∀ site, after.executor.site? receiver = some site → later.siteScope? site = none) →
            task.futureSite = none →
            ended.executor = later.executor ∧
              ∀ other, ended.scheduler.savedScope? other = later.scheduler.savedScope? other) := by
  cases depth with
  | zero => cases called
  | succ depth =>
      obtain ⟨id, registered, same, newest, found, reports⟩ :=
        callMethod_registers reachable.numbered resolves declared async called
      refine ⟨id, same, newest, fun later task onward unlimited there finished waiting => ?_⟩
      obtain ⟨kept, here, retained⟩ := onward.retains id registered found
      rw [there] at here
      cases here
      -- The task has not reported yet, so that it still has the instance and site it was registered
      -- with.
      have still : task.receiver = some ⟨.struct typeName fields, after.executor.site? receiver⟩ :=
        (retained waiting).2.trans reports
      obtain ⟨ended, ran, writes, leaves⟩ :=
        finalize_writes_back unlimited there finished waiting still
      refine ⟨ended, ran, fun site scope pins holds present => ?_, leaves⟩
      have name : site.name = receiver := by
        obtain ⟨frame, _, rfl⟩ := Option.map_eq_some_iff.mp pins
        rfl
      have reached := writes site scope pins holds
      rw [name] at reached
      exact reached present

def ticking : Program where
  structs := [{ name := "Counter", fields := ["count"] }, { name := "Pair", fields := ["left"] }]
  main := []
  functions :=
    [{ name := "tick", params := [], body := [.assign "self.count" (.lit (.int 7))],
       isAsync := true, owner := some "Counter" }]

def holdingCounter : Session :=
  ((interpreter 4).exec [] (.letVar "c" (.structLit "Counter" [("count", .lit (.int 1))]))
    ((interpreter 0).request (.load ticking) (.start {} 0)).session).session

theorem write_back_reaches_pinned_scope_ticking :
    ∃ after later ended written,
      (interpreter 4).eval (.methodCall "c" "tick" []) holdingCounter =
        .done (Future.pending.toValue (some ⟨0⟩)) after ∧
      (interpreter 5).step ⟨0⟩ after = .done .done later ∧
      Act.finalize ⟨0⟩ later = .done () ended ∧
      ended.siteScope? ⟨"c", ⟨0⟩, none⟩ = some written ∧
      written.get? "c" = some (.struct "Counter" [("count", .int 7)]) := by
  have reachable : holdingCounter.Reachable :=
    ((Session.Reachable.start {} 0).requested rfl 0 (.load ticking)).executed 4 [] _
  obtain ⟨after, later, task, scope, called, stepped, idle, count, pins, unlimited, found, finished,
      waiting, members, holds, present⟩ : ∃ after later task scope,
      (interpreter 4).eval (.methodCall "c" "tick" []) holdingCounter =
        .done (Future.pending.toValue (some ⟨0⟩)) after ∧
      (interpreter 5).step ⟨0⟩ after = .done .done later ∧ after.scheduler.active = [] ∧
      after.scheduler.tasks.length = 1 ∧ after.executor.site? "c" = some ⟨"c", ⟨0⟩, none⟩ ∧
      later.budget = none ∧ later.scheduler.task? ⟨0⟩ = some task ∧ task.isFinished = true ∧
      task.isPublished = false ∧ task.receiverMembers = [("count", .int 7)] ∧
      later.siteScope? ⟨"c", ⟨0⟩, none⟩ = some scope ∧ scope.contains "c" = true :=
    ⟨_, _, _, _, rfl, rfl, rfl, rfl, rfl, rfl, rfl, rfl, rfl, rfl, rfl, rfl⟩
  have onward : after.Onward later := by
    have itself := interpreter_deepens (Nat.le_refl 5)
    have becomes := step_becomes (fun path statement => (itself.exec path statement).becomes)
      (fun path statement => (itself.exec path statement).brackets)
      (show (⟨0⟩ : TaskId) ∉ after.scheduler.active by rw [idle]; exact List.not_mem_nil)
    rw [stepped] at becomes
    exact .runs becomes
  obtain ⟨id, _, newest, reaches⟩ :=
    write_back_reaches_pinned_scope reachable rfl rfl rfl called
  have same : id = ⟨0⟩ := by
    cases id
    simpa [count] using newest.symm
  subst same
  obtain ⟨ended, ran, writes, _⟩ := reaches later task onward unlimited found finished waiting
  obtain ⟨written, reached, reads⟩ := writes _ scope pins holds present
  rw [members] at reads
  exact ⟨after, later, ended, written, called, stepped, ran, reached, reads⟩

/-- The session in which a counter is a field of a variable. -/
def holdingPair : Session :=
  ((interpreter 5).exec [] (.letVar "pair" (.structLit "Pair"
      [("left", .structLit "Counter" [("count", .lit (.int 1))])]))
    ((interpreter 0).request (.load ticking) (.start {} 0)).session).session

/-- A counter that is a field of a variable is not written, although the variable is there. -/
theorem write_back_misses_field :
    ∃ after later ended task,
      (interpreter 4).eval (.methodCall "pair.left" "tick" []) holdingPair =
        .done (Future.pending.toValue (some ⟨0⟩)) after ∧
      (interpreter 5).step ⟨0⟩ after = .done .done later ∧
      Act.finalize ⟨0⟩ later = .done () ended ∧
      ended.scheduler.task? ⟨0⟩ = some task ∧
      task.receiver.map Receiver.value = some (.struct "Counter" [("count", .int 7)]) ∧
      ended.executor.scopes.frameOf? "pair" = some ⟨0⟩ ∧
      ended.executor.scopes.readPlace "pair.left" = .ok (.struct "Counter" [("count", .int 1)]) :=
  ⟨_, _, _, _, rfl, rfl, rfl, rfl, rfl, rfl, rfl⟩

end CooperativeTasks
