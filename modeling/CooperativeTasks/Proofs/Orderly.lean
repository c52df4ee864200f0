import CooperativeTasks.Proofs.Becoming
import CooperativeTasks.Proofs.Sites

set_option autoImplicit false

/-! No two scopes share an identity.

A scope gets its identity when it is pushed for the first time. From then on it is on the stack, or
saved in its task, and in no two places at once. A task that runs has its scope on the stack; what
is saved in it meanwhile is a stale copy. -/

namespace CooperativeTasks

namespace ScopeStack

theorem nextId_modifyCurrent (change : Scope → Scope) (stack : ScopeStack) :
    (stack.modifyCurrent change).nextId = stack.nextId := by
  unfold modifyCurrent
  split <;> rfl

theorem nextId_modifyFirst? {test : Scope → Bool} {change : Scope → Scope} {stack changed : ScopeStack}
    (found : stack.modifyFirst? test change = some changed) : changed.nextId = stack.nextId := by
  unfold modifyFirst? at found
  split at found
  · cases found
    rfl
  · split at found
    · cases found
      rfl
    · cases found

theorem nextId_assignExisting (name : String) (value : Value) (stack : ScopeStack) :
    (stack.assignExisting name value).nextId = stack.nextId := by
  unfold assignExisting
  cases found : stack.assign? name value with
  | none => rfl
  | some changed => exact nextId_modifyFirst? found

theorem nextId_writePlace (name : String) (value : Value) (stack : ScopeStack) :
    (stack.writePlace name value).1.nextId = stack.nextId := by
  have flattened : ((stack.assign? name value).getD stack).nextId = stack.nextId :=
    nextId_assignExisting name value stack
  unfold writePlace
  dsimp only
  split
  · split
    · rename_i updated found
      exact nextId_modifyFirst? found
    · rfl
  · split
    · split
      · rw [nextId_assignExisting, flattened]
      · exact flattened
    · split <;> exact flattened

theorem push_cases (scope : Scope) (stack : ScopeStack) :
    (∃ id, scope.id = some id ∧ (stack.push scope).identities = some id :: stack.identities ∧
      (stack.push scope).nextId = stack.nextId) ∨
    scope.id = none ∧
      (stack.push scope).identities = some ⟨stack.nextId⟩ :: stack.identities ∧
      (stack.push scope).nextId = stack.nextId + 1 := by
  unfold push
  cases known : scope.id with
  | some id => exact .inl ⟨id, rfl, by simp [identities_eq, known], rfl⟩
  | none => exact .inr ⟨rfl, by simp [identities_eq], rfl⟩

/-- Every scope has an identity that was handed out, and no two have the same. -/
structure Identified (stack : ScopeStack) : Prop where
  known : ∀ identity ∈ stack.identities, ∃ id, identity = some id ∧ id.number < stack.nextId
  distinct : stack.identities.Nodup

theorem Identified.ofSame {stack other : ScopeStack} (identified : stack.Identified)
    (identities : other.identities = stack.identities) (nextId : other.nextId = stack.nextId) :
    other.Identified where
  known := by
    rw [identities, nextId]
    exact identified.known
  distinct := by
    rw [identities]
    exact identified.distinct

theorem Identified.push {scope : Scope} {stack : ScopeStack} (identified : stack.Identified)
    (apart : ∀ id, scope.id = some id → id.number < stack.nextId ∧ some id ∉ stack.identities) :
    (stack.push scope).Identified := by
  obtain ⟨known, distinct⟩ := identified
  obtain ⟨id, held, pushed, next⟩ | ⟨_, pushed, next⟩ := push_cases scope stack
  · obtain ⟨below, absent⟩ := apart id held
    constructor
    · rw [pushed, next]
      intro identity member
      rcases List.mem_cons.mp member with rfl | older
      · exact ⟨id, rfl, below⟩
      · exact known identity older
    · rw [pushed]
      exact List.nodup_cons.mpr ⟨absent, distinct⟩
  · constructor
    · rw [pushed, next]
      intro identity member
      rcases List.mem_cons.mp member with rfl | older
      · exact ⟨_, rfl, Nat.lt_succ_self _⟩
      · obtain ⟨id, same, below⟩ := known identity older
        exact ⟨id, same, Nat.lt_succ_of_lt below⟩
    · rw [pushed]
      refine List.nodup_cons.mpr ⟨fun member => ?_, distinct⟩
      obtain ⟨id, same, below⟩ := known _ member
      cases same
      exact Nat.lt_irrefl _ below

theorem Identified.rest {stack outer : ScopeStack} {innermost : Option ScopeId}
    (identified : stack.Identified) (same : stack.identities = innermost :: outer.identities)
    (nextId : outer.nextId = stack.nextId) : outer.Identified := by
  obtain ⟨known, distinct⟩ := identified
  rw [same] at known distinct
  constructor
  · rw [nextId]
    exact fun identity member => known identity (List.mem_cons_of_mem _ member)
  · exact (List.nodup_cons.mp distinct).2

theorem nextId_push_le (scope : Scope) (stack : ScopeStack) :
    stack.nextId ≤ (stack.push scope).nextId := by
  obtain ⟨_, _, _, next⟩ | ⟨_, _, next⟩ := push_cases scope stack
  · exact Nat.le_of_eq next.symm
  · exact Nat.le_of_lt (Nat.lt_of_lt_of_eq (Nat.lt_succ_self _) next.symm)

theorem not_mem_push {scope : Scope} {stack : ScopeStack} {id : ScopeId}
    (below : id.number < stack.nextId) (absent : some id ∉ stack.identities)
    (other : scope.id ≠ some id) : some id ∉ (stack.push scope).identities := by
  obtain ⟨held, own, pushed, _⟩ | ⟨_, pushed, _⟩ := push_cases scope stack
  · rw [pushed]
    intro member
    rcases List.mem_cons.mp member with same | older
    · cases same
      exact other own
    · exact absent older
  · rw [pushed]
    intro member
    rcases List.mem_cons.mp member with same | older
    · cases same
      exact Nat.lt_irrefl _ below
    · exact absent older

theorem at?_pushed {stack left : ScopeStack} {identity : Option ScopeId}
    (same : left.identities = identity :: stack.identities) :
    ∃ scope, left.at? stack.depth = some scope ∧ scope.id = identity := by
  have lengths : left.frames.length = stack.depth + 1 := by
    have counted := congrArg List.length same
    rw [List.length_cons, length_identities stack] at counted
    simpa [identities] using counted
  unfold identities at same
  cases frames : left.frames with
  | nil =>
      rw [frames] at lengths
      cases lengths
  | cons innermost rest =>
      rw [frames, List.map_cons, List.cons.injEq] at same
      refine ⟨innermost, ?_, same.1⟩
      have depths : rest.length = stack.depth := by
        rw [frames, List.length_cons] at lengths
        omega
      unfold at?
      rw [frames, List.reverse_cons, List.getElem?_append_right (by simp [depths]), List.length_reverse,
        depths, Nat.sub_self]
      rfl

end ScopeStack

theorem ScopeWrite.nextId {change : ScopeStack → ScopeStack} (writes : ScopeWrite change)
    (stack : ScopeStack) : (change stack).nextId = stack.nextId := by
  cases writes with
  | define name value => exact ScopeStack.nextId_modifyCurrent _ stack
  | remove name => exact ScopeStack.nextId_modifyCurrent _ stack
  | place name value => exact ScopeStack.nextId_writePlace name value stack
  | members base members =>
      induction members generalizing stack with
      | nil => rfl
      | cons member rest ih => exact (ih _).trans (ScopeStack.nextId_assignExisting _ _ stack)

theorem Task.Fresh.scope {task : Task} (fresh : task.Fresh) : task.scope = none := by
  induction fresh with
  | ofFunction function args => rfl
  | timer => rfl
  | withReceiver _ value site ih => exact ih

/-- The identity of the scope that a task has put aside. -/
def Scheduler.savedId? (id : TaskId) (scheduler : Scheduler) : Option ScopeId :=
  (scheduler.savedScope? id).bind Scope.id

namespace Scheduler

theorem savedId?_modifyTask {change : Task → Task}
    (keeps : ∀ task, (change task).scope.bind Scope.id = task.scope.bind Scope.id)
    (id other : TaskId) (scheduler : Scheduler) :
    (scheduler.modifyTask id change).savedId? other = scheduler.savedId? other :=
  view_modifyTask (fun known => (known.bind Task.scope).bind Scope.id) keeps id other scheduler

theorem savedId?_modifyTask_of_ne {id other : TaskId} (different : other ≠ id)
    (change : Task → Task) (scheduler : Scheduler) :
    (scheduler.modifyTask id change).savedId? other = scheduler.savedId? other := by
  unfold savedId?
  rw [savedScope?_modifyTask_of_ne different]

theorem savedId?_of_modifyTask {id other : TaskId} {change : Task → Task} {scheduler : Scheduler}
    {identity : ScopeId}
    (scope : ∀ task, (change task).scope.bind Scope.id = some identity →
      task.scope.bind Scope.id = some identity)
    (held : (scheduler.modifyTask id change).savedId? other = some identity) :
    scheduler.savedId? other = some identity := by
  by_cases own : other = id
  · subst other
    unfold savedId? savedScope? at held ⊢
    rw [task?_modifyTask_self] at held
    cases known : scheduler.task? id with
    | none =>
        rw [known] at held
        cases held
    | some task =>
        rw [known] at held
        exact scope task held
  · rw [savedId?_modifyTask_of_ne own] at held
    exact held

theorem savedId?_replaced {owner : TaskId} {scheduler : Scheduler} {scope changed : Scope}
    (saved : scheduler.savedScope? owner = some scope) (same : changed.id = scope.id)
    (id : TaskId) :
    (scheduler.modifyTask owner fun task => { task with scope := some changed }).savedId? id =
      scheduler.savedId? id := by
  by_cases own : id = owner
  · subst id
    unfold savedId?
    rw [savedScope?_replaced saved, saved]
    exact same
  · exact savedId?_modifyTask_of_ne own _ scheduler

theorem savedId?_register {task : Task} (scopeless : task.scope = none) (id : TaskId)
    (scheduler : Scheduler) :
    (scheduler.register task).2.savedId? id = scheduler.savedId? id := by
  refine view_register (fun known => (known.bind Task.scope).bind Scope.id) ?_ id
  exact congrArg (·.bind Scope.id) scopeless

end Scheduler

/-- Scopes have identities of their own, on the stack and saved. -/
structure Session.Orderly (session : Session) : Prop where
  scopes : session.executor.scopes.Identified
  saved : ∀ task id, session.scheduler.savedId? task = some id →
    id.number < session.executor.scopes.nextId
  apart : ∀ task id, session.scheduler.savedId? task = some id → task ∉ session.scheduler.active →
    some id ∉ session.executor.scopes.identities
  unshared : ∀ first second id, session.scheduler.savedId? first = some id →
    session.scheduler.savedId? second = some id → first ∉ session.scheduler.active →
    second ∉ session.scheduler.active → first = second
  unfinished : ∀ id ∈ session.scheduler.active, session.scheduler.Unfinished id

/-- The innermost scope is dropped together with the step that it belongs to. The task of the step has
put aside that very scope, if any. -/
theorem Session.Orderly.dropped {id : TaskId} {identity : ScopeId} {left after : Session}
    (orderly : left.Orderly)
    (whole : left.executor.scopes.identities = some identity :: after.executor.scopes.identities)
    (next : after.executor.scopes.nextId = left.executor.scopes.nextId)
    (active : left.scheduler.active = id :: after.scheduler.active)
    (idle : id ∉ after.scheduler.active)
    (others : ∀ other, other ≠ id → after.scheduler.task? other = left.scheduler.task? other)
    (own : ∀ held, after.scheduler.savedId? id = some held → held = identity) : after.Orderly := by
  obtain ⟨inner, saved, apart, unshared, unfinished⟩ := orderly
  have same {other : TaskId} (different : other ≠ id) :
      after.scheduler.savedId? other = left.scheduler.savedId? other := by
    unfold Scheduler.savedId? Scheduler.savedScope?
    rw [others other different]
  have aside {other : TaskId} (idle : other ∉ after.scheduler.active) (different : other ≠ id) :
      other ∉ left.scheduler.active := by
    rw [active]
    exact fun member => (List.mem_cons.mp member).elim different idle
  -- The identity of the dropped scope is put aside by no other task: it has been on the stack.
  have unowned {other : TaskId} {held : ScopeId} (different : other ≠ id)
      (holds : after.scheduler.savedId? other = some held) (idle : other ∉ after.scheduler.active) :
      held ≠ identity := by
    rintro rfl
    rw [same different] at holds
    exact apart other _ holds (aside idle different) (whole ▸ List.mem_cons_self)
  constructor
  · exact inner.rest whole next
  · rw [next]
    intro other held holds
    by_cases equal : other = id
    · subst other
      obtain ⟨number, first, below⟩ := inner.known _ (whole ▸ List.mem_cons_self)
      cases first
      rw [own held holds]
      exact below
    · rw [same equal] at holds
      exact saved other held holds
  · intro other held holds idle member
    by_cases equal : other = id
    · subst other
      have distinct := inner.distinct
      rw [whole] at distinct
      rw [own held holds] at member
      exact (List.nodup_cons.mp distinct).1 member
    · rw [same equal] at holds
      exact apart other held holds (aside idle equal) (whole ▸ List.mem_cons_of_mem _ member)
  · intro one other held holds holds' idle idle'
    by_cases first : one = id
    · by_cases second : other = id
      · rw [first, second]
      · subst one
        exact absurd (own held holds) (unowned second holds' idle')
    · by_cases second : other = id
      · subst other
        exact absurd (own held holds') (unowned first holds idle)
      · rw [same first] at holds
        rw [same second] at holds'
        exact unshared one other held holds holds' (aside idle first) (aside idle' second)
  · intro other member
    have different : other ≠ id := fun same => idle (same ▸ member)
    obtain ⟨current, found, lives⟩ := unfinished other (active ▸ List.mem_cons_of_mem id member)
    exact ⟨current, (others other different).trans found, lives⟩

/-- Running code keeps the order. Tasks that run keep running, and what is saved in them meanwhile
keeps its identity. -/
structure Session.Orders (before after : Session) : Prop where
  active : before.scheduler.active <:+ after.scheduler.active
  saved : ∀ id ∈ before.scheduler.active,
    after.scheduler.savedId? id = before.scheduler.savedId? id
  orderly : before.Orderly → after.Orderly

namespace Session.Orders

theorem refl (session : Session) : Orders session session :=
  ⟨List.suffix_refl _, fun _ _ => rfl, fun orderly => orderly⟩

theorem trans {first second third : Session} (earlier : Orders first second)
    (later : Orders second third) : Orders first third where
  active := earlier.active.trans later.active
  saved id member := (later.saved id (earlier.active.subset member)).trans (earlier.saved id member)
  orderly start := later.orderly (earlier.orderly start)

theorem ofSame {before after : Session}
    (scopes : after.executor.scopes.identities = before.executor.scopes.identities)
    (nextId : after.executor.scopes.nextId = before.executor.scopes.nextId)
    (active : after.scheduler.active = before.scheduler.active)
    (running : ∀ id ∈ before.scheduler.active,
      after.scheduler.savedId? id = before.scheduler.savedId? id ∧
        (before.scheduler.Unfinished id → after.scheduler.Unfinished id))
    (saved : ∀ id identity, after.scheduler.savedId? id = some identity →
      before.scheduler.savedId? id = some identity) : Orders before after where
  active := active ▸ List.suffix_refl _
  saved id member := (running id member).1
  orderly orderly := by
    constructor
    · exact orderly.scopes.ofSame scopes nextId
    · intro task id held
      rw [nextId]
      exact orderly.saved task id (saved task id held)
    · intro task id held idle
      rw [active] at idle
      rw [scopes]
      exact orderly.apart task id (saved task id held) idle
    · intro first second id one other idle idle'
      rw [active] at idle idle'
      exact orderly.unshared first second id (saved first id one) (saved second id other) idle idle'
    · intro id member
      rw [active] at member
      exact (running id member).2 (orderly.unfinished id member)

theorem ofScopes {before after : Session} (scheduler : after.scheduler = before.scheduler)
    (scopes : after.executor.scopes.identities = before.executor.scopes.identities)
    (nextId : after.executor.scopes.nextId = before.executor.scopes.nextId) : Orders before after := by
  refine ofSame scopes nextId (by rw [scheduler]) ?_ ?_
  · intro id _
    rw [scheduler]
    exact ⟨rfl, fun unfinished => unfinished⟩
  · intro id identity held
    rw [scheduler] at held
    exact held

theorem onTask {change : Task → Task}
    (scope : ∀ task, (change task).scope.bind Scope.id = task.scope.bind Scope.id)
    (finished : ∀ task, (change task).isFinished = task.isFinished) (id : TaskId)
    (session : Session) : Orders session (session.onTask id change) := by
  have same (other : TaskId) := Scheduler.savedId?_modifyTask scope id other session.scheduler
  refine ofSame rfl rfl rfl ?_ ?_
  · intro other _
    exact ⟨same other, (Scheduler.unfinished_modifyTask_iff finished id other session.scheduler).mpr⟩
  · intro other identity held
    rw [← same other]
    exact held

theorem onIdle {id : TaskId} {session : Session} (idle : id ∉ session.scheduler.active)
    {change : Task → Task}
    (scope : ∀ task identity, (change task).scope.bind Scope.id = some identity →
      task.scope.bind Scope.id = some identity) :
    Orders session (session.onTask id change) := by
  refine ofSame rfl rfl rfl ?_ ?_
  · intro other member
    have different : other ≠ id := fun same => idle (same ▸ member)
    refine ⟨Scheduler.savedId?_modifyTask_of_ne different change session.scheduler, ?_⟩
    rintro ⟨task, found, unfinished⟩
    refine ⟨task, ?_, unfinished⟩
    change (session.scheduler.modifyTask id change).task? other = _
    rw [Scheduler.task?_modifyTask_of_ne different]
    exact found
  · exact fun other identity held =>
      Scheduler.savedId?_of_modifyTask (fun task => scope task identity) held

theorem siteChanged {change : Scope → Scope} (keeps : ∀ scope, (change scope).id = scope.id)
    (site : BindingSite) (session : Session) : Orders session (session.modifySite site change) := by
  rcases modifySite_cases site change session with
    ⟨scopes, modified, same⟩ | ⟨_, owner, scope, _, saved, _, same⟩ | ⟨_, same⟩
  · rw [same]
    exact ofScopes rfl (ScopeStack.identities_modifyFirst? keeps modified)
      (ScopeStack.nextId_modifyFirst? modified)
  · have kept (other : TaskId) : (session.onTask owner fun task =>
        { task with scope := some (change scope) }).scheduler.savedId? other =
          session.scheduler.savedId? other := Scheduler.savedId?_replaced saved (keeps scope) other
    rw [same]
    refine ofSame rfl rfl rfl ?_ ?_
    · intro other _
      have lives := @Scheduler.unfinished_modifyTask_iff
        (fun task => { task with scope := some (change scope) }) (fun _ => rfl) owner other
        session.scheduler
      exact ⟨kept other, lives.mpr⟩
    · intro other identity held
      rw [kept other] at held
      exact held
  · rw [same]
    exact refl session

theorem registered {task : Task} (fresh : task.Fresh) (session : Session) :
    Orders session { session with scheduler := (session.scheduler.register task).2 } := by
  have same (id : TaskId) := Scheduler.savedId?_register fresh.scope id session.scheduler
  refine ofSame rfl rfl rfl ?_ ?_
  · intro id _
    refine ⟨same id, ?_⟩
    rintro ⟨known, found, unfinished⟩
    have within : id.index < session.scheduler.tasks.length := (List.getElem?_eq_some_iff.mp found).1
    refine ⟨known, ?_, unfinished⟩
    rw [Scheduler.task?_register_of_lt within]
    exact found
  · intro id identity held
    rw [← same id]
    exact held

/-! ### Brackets -/

theorem called {scope : Scope} (new : scope.id = none) (session : Session) :
    Orders session (session.enteringCall scope) where
  active := List.suffix_refl _
  saved _ _ := rfl
  orderly orderly := by
    constructor
    · refine orderly.scopes.push fun id held => ?_
      rw [new] at held
      cases held
    · exact fun task id held => Nat.lt_of_lt_of_le (orderly.saved task id held)
        (ScopeStack.nextId_push_le scope _)
    · intro task id held idle
      refine ScopeStack.not_mem_push (orderly.saved task id held) (orderly.apart task id held idle) ?_
      rw [new]
      intro impossible
      cases impossible
    · exact orderly.unshared
    · exact orderly.unfinished

theorem returned {scope : Scope} (new : scope.id = none) {before left : Session}
    (inside : Orders (before.enteringCall scope) left)
    (kept : (before.enteringCall scope).Kept .statement left) :
    Orders before (left.leavingCall before.executor) where
  active := inside.active
  saved := inside.saved
  orderly orderly := by
    have inner := inside.orderly ((called new before).orderly orderly)
    obtain ⟨innermost, pushed⟩ := ScopeStack.identities_push scope before.executor.scopes
    have outer : (left.leavingCall before.executor).executor.scopes.identities =
        before.executor.scopes.identities := ScopeStack.identities_truncate_push kept.scopes
    have whole : left.executor.scopes.identities =
        some innermost :: (left.leavingCall before.executor).executor.scopes.identities := by
      rw [outer]
      exact kept.scopes.trans pushed
    constructor
    · exact inner.scopes.rest whole rfl
    · exact inner.saved
    · intro task id held idle member
      exact inner.apart task id held idle (whole ▸ List.mem_cons_of_mem _ member)
    · exact inner.unshared
    · exact inner.unfinished

theorem entered {id : TaskId} {task : Task} {session : Session}
    (entering : session.Entering id task) : Orders session (session.enteringTask id task) where
  active := List.suffix_cons id _
  saved _ _ := rfl
  orderly orderly := by
    obtain ⟨scopes, saved, apart, unshared, unfinished⟩ := orderly
    obtain ⟨current, found, same, lives⟩ := entering.found
    have idle {other : TaskId} (aside : other ∉ (session.enteringTask id task).scheduler.active) :
        other ≠ id ∧ other ∉ session.scheduler.active :=
      ⟨fun own => aside (own ▸ List.mem_cons_self), fun member => aside (List.mem_cons_of_mem id member)⟩
    have mine {identity : ScopeId} (held : (task.scope.getD {}).id = some identity) :
        session.scheduler.savedId? id = some identity := by
      unfold Scheduler.savedId? Scheduler.savedScope?
      rw [found, Option.bind_some, same]
      cases scope : task.scope with
      | none =>
          rw [scope] at held
          cases held
      | some saved =>
          rw [scope] at held
          exact held
    constructor
    · exact scopes.push fun identity held =>
        ⟨saved id identity (mine held), apart id identity (mine held) entering.idle⟩
    · exact fun other identity held => Nat.lt_of_lt_of_le (saved other identity held)
        (ScopeStack.nextId_push_le _ _)
    · intro other identity held aside
      obtain ⟨different, away⟩ := idle aside
      refine ScopeStack.not_mem_push (saved other identity held) (apart other identity held away) ?_
      exact fun own => different (unshared other id identity held (mine own) away entering.idle)
    · exact fun one other identity held held' aside aside' =>
        unshared one other identity held held' (idle aside).2 (idle aside').2
    · intro other member
      rcases List.mem_cons.mp member with rfl | older
      · exact ⟨current, found, lives⟩
      · exact unfinished other older

theorem stepped {id : TaskId} {task : Task} {before left after : Session}
    (entering : before.Entering id task) (inside : Orders (before.enteringTask id task) left)
    (kept : (before.enteringTask id task).Kept .statement left)
    (scopes : after.executor.scopes = left.executor.scopes.truncate before.executor.scopes.depth)
    (active : after.scheduler.active = left.scheduler.active.tail)
    (others : ∀ other, other ≠ id → after.scheduler.task? other = left.scheduler.task? other)
    (own : ∀ identity, after.scheduler.savedId? id = some identity →
      left.executor.scopes.identities.head? = some (some identity)) :
    Orders before after := by
  have running : after.scheduler.active = before.scheduler.active := by
    rw [active, kept.active]
    rfl
  refine ⟨running ▸ List.suffix_refl _, fun other member => ?_, fun orderly => ?_⟩
  · have different : other ≠ id := fun same => entering.idle (same ▸ member)
    have same : after.scheduler.savedId? other = left.scheduler.savedId? other := by
      unfold Scheduler.savedId? Scheduler.savedScope?
      rw [others other different]
    rw [same]
    exact inside.saved other (List.mem_cons_of_mem id member)
  · obtain ⟨identity, pushed⟩ := ScopeStack.identities_push (task.scope.getD {}) before.executor.scopes
    have outer : after.executor.scopes.identities = before.executor.scopes.identities := by
      rw [scopes]
      exact ScopeStack.identities_truncate_push kept.scopes
    have whole :
        left.executor.scopes.identities = some identity :: after.executor.scopes.identities := by
      rw [outer]
      exact kept.scopes.trans pushed
    refine (inside.orderly ((entered entering).orderly orderly)).dropped whole ?_ ?_ ?_ others ?_
    · rw [scopes]
      rfl
    · rw [running]
      exact kept.active
    · rw [running]
      exact entering.idle
    · intro held holds
      have first := own held holds
      rw [whole] at first
      cases first
      rfl

end Session.Orders

namespace Session

theorem Entering.faulted_own {id : TaskId} {task : Task} {before left : Session}
    (entering : before.Entering id task)
    (saved : left.scheduler.savedId? id = before.scheduler.savedId? id)
    (kept : (before.enteringTask id task).Kept .statement left) {identity : ScopeId}
    (held : left.scheduler.savedId? id = some identity) :
    left.executor.scopes.identities.head? = some (some identity) := by
  obtain ⟨current, found, same, _⟩ := entering.found
  rw [saved] at held
  unfold Scheduler.savedId? Scheduler.savedScope? at held
  rw [found, Option.bind_some, same] at held
  obtain ⟨scope, own, known⟩ := Option.bind_eq_some_iff.mp held
  obtain ⟨_, equal, pushed, _⟩ | ⟨unknown, _⟩ :=
    ScopeStack.push_cases (task.scope.getD {}) before.executor.scopes
  · rw [own, Option.getD_some, known] at equal
    cases equal
    rw [show left.executor.scopes.identities = _ from kept.scopes.trans pushed]
    rfl
  · rw [own, Option.getD_some, known] at unknown
    cases unknown

theorem settled_own {id : TaskId} {task : Task} {before left : Session}
    (kept : (before.enteringTask id task).Kept .statement left) {change : Task → Task}
    (scope : ∀ current, (change current).scope =
      some ((StepFrame.enter id task before.executor).1.scopeIn left.executor)) {identity : ScopeId}
    (held : ((left.leavingTask id task before.executor).onTask id change).scheduler.savedId? id =
      some identity) :
    left.executor.scopes.identities.head? = some (some identity) := by
  obtain ⟨pushed, whole⟩ := ScopeStack.identities_push (task.scope.getD {}) before.executor.scopes
  obtain ⟨last, reached, known⟩ := ScopeStack.at?_pushed (kept.scopes.trans whole)
  change (Scheduler.modifyTask id change _).savedId? id = some identity at held
  unfold Scheduler.savedId? Scheduler.savedScope? at held
  rw [Scheduler.task?_modifyTask_self] at held
  obtain ⟨scope', settled, own⟩ := Option.bind_eq_some_iff.mp held
  obtain ⟨current, changed, rests⟩ := Option.bind_eq_some_iff.mp settled
  obtain ⟨earlier, _, rfl⟩ := Option.map_eq_some_iff.mp changed
  rw [scope earlier] at rests
  cases rests
  have equal : (StepFrame.enter id task before.executor).1.scopeIn left.executor = last := by
    unfold StepFrame.scopeIn
    exact congrArg (fun found => Option.getD found {}) reached
  rw [equal, known] at own
  cases own
  rw [show left.executor.scopes.identities = _ from kept.scopes.trans whole]
  rfl

end Session

theorem Session.Becomes.orders {before after : Session} (becomes : before.Becomes after) :
    before.Orders after := by
  -- Only calls and steps push scopes or put them aside; they carry what holds inside of them.
  induction becomes with
  | refl session => exact .refl session
  | trans _ _ earlier later => exact earlier.trans later
  | aside executor scheduler => exact .ofScopes scheduler (by rw [executor]) (by rw [executor])
  | written writes session => exact .ofScopes rfl (writes.identities _) (writes.nextId _)
  | globalSet name value session =>
      refine .ofScopes rfl ?_ rfl
      simp [Executor.setGlobal, ScopeStack.modifyGlobal, ScopeStack.identities_eq]
  | declared functions structs session => exact .ofScopes rfl rfl rfl
  | shown positions output session => exact .ofScopes rfl rfl rfl
  | queued queue statistics session =>
      exact .ofSame rfl rfl rfl (fun _ _ => ⟨rfl, fun lives => lives⟩) fun _ _ held => held
  | registered fresh session => exact .registered fresh session
  | marked id spares session =>
      exact .onTask (fun task => by rw [spares.scope]) spares.isFinished id session
  | completed id payload session idle =>
      apply Session.Orders.onIdle idle
      exact fun task identity held => held
  | started idle =>
      refine .onIdle idle fun task identity held => ?_
      unfold Task.start at held
      split at held
      · exact held
      · cases held
  | published id receiver session =>
      apply Session.Orders.onTask
      · exact fun _ => rfl
      · exact fun _ => rfl
  | siteChanged site keeps session => exact .siteChanged keeps site session
  | called new session => exact .called new session
  | returned new _ kept inside => exact .returned new inside kept
  | entered entering => exact .entered entering
  | faulted entering _ kept inside =>
      exact .stepped entering inside kept rfl rfl (fun _ _ => rfl) fun _ =>
        entering.faulted_own (inside.saved _ List.mem_cons_self) kept
  | settled entering _ kept spares scope inside =>
      refine .stepped entering inside kept rfl rfl ?_ fun _ => Session.settled_own kept scope
      exact fun other different => Scheduler.task?_modifyTask_of_ne different _ _

theorem Session.Reachable.orderly {session : Session} (reachable : session.Reachable) :
    session.Orderly := by
  refine holds ?_ ?_ ?_ reachable
  · intro settings tick
    constructor
    · constructor
      · intro identity member
        cases List.mem_singleton.mp member
        exact ⟨⟨0⟩, rfl, Nat.zero_lt_one⟩
      · exact List.nodup_cons.mpr ⟨List.not_mem_nil, List.nodup_nil⟩
    · intro task id held
      cases held
    · intro task id held
      cases held
    · intro first second id held
      cases held
    · intro id member
      cases member
  · exact fun before after becomes orderly => becomes.orders.orderly orderly
  · intro session id site orderly
    refine Session.Orders.orderly ?_ orderly
    apply Session.Orders.onTask
    · exact fun _ => rfl
    · exact fun _ => rfl

end CooperativeTasks
