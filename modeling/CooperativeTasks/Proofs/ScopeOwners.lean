import CooperativeTasks.Proofs.Orderly

set_option autoImplicit false

/-! Whom scopes belong to.

Identities are handed out one after the other. Each is handed out for the step of a task, which
keeps it with its scope in all its steps to come, or for a call or the globals, which no task keeps.
A list of these owners, in the order of the identities, is what a session has to be read with: it
only ever grows. -/

namespace CooperativeTasks

/-- The task that an identity was handed out for, if any. -/
def ScopeId.ownerIn (owners : List (Option TaskId)) (id : ScopeId) : Option TaskId :=
  owners[id.number]?.join

/-- The tasks that the scopes of a stack belong to. -/
def ownersOf (owners : List (Option TaskId)) (identities : List (Option ScopeId)) : List TaskId :=
  identities.filterMap fun identity => identity.bind (ScopeId.ownerIn owners)

theorem ScopeId.ownerIn_append {id : ScopeId} {owners : List (Option TaskId)}
    (known : id.number < owners.length) (more : List (Option TaskId)) :
    id.ownerIn (owners ++ more) = id.ownerIn owners := by
  unfold ownerIn
  rw [List.getElem?_append_left known]

theorem ScopeId.ownerIn_concat (owners : List (Option TaskId)) (owner : Option TaskId) :
    (⟨owners.length⟩ : ScopeId).ownerIn (owners ++ [owner]) = owner := by
  unfold ownerIn
  rw [List.getElem?_concat_length]
  rfl

theorem ownersOf_append {owners : List (Option TaskId)} {identities : List (Option ScopeId)}
    (known : ∀ identity ∈ identities, ∃ id, identity = some id ∧ id.number < owners.length)
    (more : List (Option TaskId)) :
    ownersOf (owners ++ more) identities = ownersOf owners identities := by
  unfold ownersOf
  induction identities with
  | nil => rfl
  | cons identity rest ih =>
      obtain ⟨id, rfl, below⟩ := known identity List.mem_cons_self
      have later := ih fun other member => known other (List.mem_cons_of_mem _ member)
      rw [List.filterMap_cons, List.filterMap_cons, later, Option.bind_some, Option.bind_some,
        id.ownerIn_append below]

/-- The scopes of a session belong to the owners listed: what is saved belongs to its task, and the
scopes on the stack to the tasks that are running, in their order. -/
structure Session.Attributed (owners : List (Option TaskId)) (session : Session) : Prop where
  orderly : session.Orderly
  count : owners.length = session.executor.scopes.nextId
  saved : ∀ task id, session.scheduler.savedId? task = some id → id.ownerIn owners = some task
  running : ownersOf owners session.executor.scopes.identities = session.scheduler.active

/-- Nothing has changed of the scopes but what is bound in them, and nobody has got another one. -/
structure Session.Undisturbed (before after : Session) : Prop where
  identities : after.executor.scopes.identities = before.executor.scopes.identities
  nextId : after.executor.scopes.nextId = before.executor.scopes.nextId
  active : after.scheduler.active = before.scheduler.active
  saved : ∀ task id, after.scheduler.savedId? task = some id →
    before.scheduler.savedId? task = some id

namespace Session.Attributed

variable {owners : List (Option TaskId)} {before : Session} (attributed : before.Attributed owners)

include attributed

theorem known : ∀ identity ∈ before.executor.scopes.identities,
    ∃ id, identity = some id ∧ id.number < owners.length := by
  rw [attributed.count]
  exact attributed.orderly.scopes.known

theorem savedBelow {task : TaskId} {id : ScopeId}
    (held : before.scheduler.savedId? task = some id) : id.number < owners.length := by
  rw [attributed.count]
  exact attributed.orderly.saved task id held

theorem undisturbed {after : Session} (orders : before.Orders after)
    (same : before.Undisturbed after) : after.Attributed owners where
  orderly := orders.orderly attributed.orderly
  count := attributed.count.trans same.nextId.symm
  saved task id held := attributed.saved task id (same.saved task id held)
  running := by
    rw [same.identities, same.active]
    exact attributed.running

theorem called {scope : Scope} (new : scope.id = none) :
    (before.enteringCall scope).Attributed (owners ++ [none]) := by
  obtain ⟨_, held, _⟩ | ⟨_, pushed, next⟩ := ScopeStack.push_cases scope before.executor.scopes
  · rw [new] at held
    cases held
  constructor
  · exact (Session.Orders.called new before).orderly attributed.orderly
  · change _ = (before.executor.scopes.push scope).nextId
    rw [next, List.length_append, attributed.count]
    rfl
  · intro task id held
    rw [ScopeId.ownerIn_append (attributed.savedBelow held)]
    exact attributed.saved task id held
  · change ownersOf _ (before.executor.scopes.push scope).identities = before.scheduler.active
    have unowned : (⟨before.executor.scopes.nextId⟩ : ScopeId).ownerIn (owners ++ [none]) =
        none := by
      rw [← attributed.count]
      exact ScopeId.ownerIn_concat owners none
    rw [pushed, ownersOf, List.filterMap_cons_none (by exact unowned)]
    exact (ownersOf_append attributed.known [none]).trans attributed.running

theorem returned {scope : Scope} {left : Session} {more : List (Option TaskId)}
    (orders : before.Orders (left.leavingCall before.executor))
    (kept : (before.enteringCall scope).Kept .statement left)
    (inside : left.Attributed (owners ++ more)) :
    (left.leavingCall before.executor).Attributed (owners ++ more) where
  orderly := orders.orderly attributed.orderly
  count := inside.count
  saved := inside.saved
  running := by
    have outer : (left.leavingCall before.executor).executor.scopes.identities =
        before.executor.scopes.identities := ScopeStack.identities_truncate_push kept.scopes
    rw [outer, ownersOf_append attributed.known, attributed.running]
    exact kept.active.symm

theorem entered {id : TaskId} {task : Task} (entering : before.Entering id task) :
    ∃ more, (before.enteringTask id task).Attributed (owners ++ more) := by
  obtain ⟨current, found, same, _⟩ := entering.found
  have orderly := (Session.Orders.entered entering).orderly attributed.orderly
  obtain ⟨identity, held, pushed, next⟩ | ⟨_, pushed, next⟩ :=
    ScopeStack.push_cases (task.scope.getD {}) before.executor.scopes
  · have saved : before.scheduler.savedId? id = some identity := by
      unfold Scheduler.savedId? Scheduler.savedScope?
      rw [found, Option.bind_some, same]
      cases scope : task.scope with
      | none =>
          rw [scope] at held
          cases held
      | some own =>
          rw [scope] at held
          exact held
    refine ⟨[], orderly, ?_, ?_, ?_⟩
    · rw [List.append_nil]
      exact attributed.count.trans next.symm
    · rw [List.append_nil]
      exact attributed.saved
    · change ownersOf _ (before.executor.scopes.push _).identities = id :: before.scheduler.active
      have owned : identity.ownerIn (owners ++ []) = some id := by
        rw [List.append_nil]
        exact attributed.saved id identity saved
      rw [pushed, ownersOf, List.filterMap_cons_some (by exact owned), List.append_nil]
      exact congrArg (id :: ·) attributed.running
  · refine ⟨[some id], orderly, ?_, ?_, ?_⟩
    · change _ = (before.executor.scopes.push _).nextId
      rw [next, List.length_append, attributed.count]
      rfl
    · intro other identity held
      rw [ScopeId.ownerIn_append (attributed.savedBelow held)]
      exact attributed.saved other identity held
    · change ownersOf _ (before.executor.scopes.push _).identities = id :: before.scheduler.active
      have owned : (⟨before.executor.scopes.nextId⟩ : ScopeId).ownerIn (owners ++ [some id]) =
          some id := by
        rw [← attributed.count]
        exact ScopeId.ownerIn_concat owners (some id)
      rw [pushed, ownersOf, List.filterMap_cons_some (by exact owned)]
      exact congrArg (id :: ·)
        ((ownersOf_append attributed.known [some id]).trans attributed.running)

theorem stepped {id : TaskId} {task : Task} {left after : Session} {more : List (Option TaskId)}
    (orders : before.Orders after) (kept : (before.enteringTask id task).Kept .statement left)
    (scopes : after.executor.scopes = left.executor.scopes.truncate before.executor.scopes.depth)
    (active : after.scheduler.active = left.scheduler.active.tail)
    (others : ∀ other, other ≠ id → after.scheduler.task? other = left.scheduler.task? other)
    (own : ∀ identity, after.scheduler.savedId? id = some identity →
      left.executor.scopes.identities.head? = some (some identity))
    (inside : left.Attributed (owners ++ more)) : after.Attributed (owners ++ more) := by
  obtain ⟨identity, pushed⟩ :=
    ScopeStack.identities_push (task.scope.getD {}) before.executor.scopes
  have outer : after.executor.scopes.identities = before.executor.scopes.identities := by
    rw [scopes]
    exact ScopeStack.identities_truncate_push kept.scopes
  have whole : left.executor.scopes.identities =
      some identity :: before.executor.scopes.identities := kept.scopes.trans pushed
  have rest : ownersOf (owners ++ more) before.executor.scopes.identities =
      before.scheduler.active := (ownersOf_append attributed.known more).trans attributed.running
  have running : left.scheduler.active = id :: before.scheduler.active := kept.active
  constructor
  · exact orders.orderly attributed.orderly
  · rw [scopes]
    exact inside.count
  · intro other held holds
    by_cases same : other = id
    · subst other
      have first := own held holds
      rw [whole] at first
      cases first
      -- The owner of the innermost scope is the innermost task that is running.
      have innermost := inside.running
      rw [whole, running, ownersOf] at innermost
      cases owner : identity.ownerIn (owners ++ more) with
      | none =>
          rw [List.filterMap_cons_none (by exact owner)] at innermost
          have lengths := congrArg List.length (rest.symm.trans innermost)
          rw [List.length_cons] at lengths
          omega
      | some holder =>
          rw [List.filterMap_cons_some (by exact owner)] at innermost
          exact congrArg some (List.cons.inj innermost).1
    · refine inside.saved other held ?_
      unfold Scheduler.savedId? Scheduler.savedScope? at holds ⊢
      rw [← others other same]
      exact holds
  · rw [outer, rest, active, running]
    rfl

end Session.Attributed

namespace Session.Undisturbed

theorem ofScheduler {before after : Session} (scheduler : after.scheduler = before.scheduler)
    (identities : after.executor.scopes.identities = before.executor.scopes.identities)
    (nextId : after.executor.scopes.nextId = before.executor.scopes.nextId) :
    Undisturbed before after := by
  refine ⟨identities, nextId, by rw [scheduler], ?_⟩
  rw [scheduler]
  exact fun _ _ held => held

theorem onTask {change : Task → Task}
    (scope : ∀ task identity, (change task).scope.bind Scope.id = some identity →
      task.scope.bind Scope.id = some identity) (id : TaskId) (session : Session) :
    Undisturbed session (session.onTask id change) := by
  exact ⟨rfl, rfl, rfl, fun other identity held =>
    Scheduler.savedId?_of_modifyTask (fun task => scope task identity) held⟩

theorem modifySite {change : Scope → Scope} (keeps : ∀ scope, (change scope).id = scope.id)
    (site : BindingSite) (session : Session) :
    Undisturbed session (session.modifySite site change) := by
  rcases modifySite_cases site change session with
    ⟨scopes, modified, same⟩ | ⟨_, owner, scope, _, saved, _, same⟩ | ⟨_, same⟩
  · rw [same]
    exact .ofScheduler rfl (ScopeStack.identities_modifyFirst? keeps modified)
      (ScopeStack.nextId_modifyFirst? modified)
  · rw [same]
    exact ⟨rfl, rfl, rfl, fun other identity held =>
      (Scheduler.savedId?_replaced saved (keeps scope) other).symm.trans held⟩
  · rw [same]
    exact .ofScheduler rfl rfl rfl

end Session.Undisturbed

/-- The scopes keep their owners, and owners are only added for what is new. -/
def Session.KeepsOwners (before after : Session) : Prop :=
  ∀ owners, before.Attributed owners → ∃ more, after.Attributed (owners ++ more)

namespace Session.KeepsOwners

theorem undisturbed {before after : Session} (orders : before.Orders after)
    (same : before.Undisturbed after) : before.KeepsOwners after := by
  intro owners attributed
  refine ⟨[], ?_⟩
  rw [List.append_nil]
  exact attributed.undisturbed orders same

theorem aside {before after : Session} (executor : after.executor = before.executor)
    (scheduler : after.scheduler = before.scheduler) : before.KeepsOwners after :=
  undisturbed (.ofScopes scheduler (by rw [executor]) (by rw [executor]))
    (.ofScheduler scheduler (by rw [executor]) (by rw [executor]))

theorem trans {first second third : Session} (earlier : first.KeepsOwners second)
    (later : second.KeepsOwners third) : first.KeepsOwners third := by
  intro owners attributed
  obtain ⟨more, between⟩ := earlier owners attributed
  obtain ⟨rest, last⟩ := later (owners ++ more) between
  rw [List.append_assoc] at last
  exact ⟨_, last⟩

theorem called {scope : Scope} (new : scope.id = none) (session : Session) :
    session.KeepsOwners (session.enteringCall scope) :=
  fun _ attributed => ⟨[none], attributed.called new⟩

theorem entered {id : TaskId} {task : Task} {session : Session}
    (entering : session.Entering id task) : session.KeepsOwners (session.enteringTask id task) :=
  fun _ attributed => attributed.entered entering

end Session.KeepsOwners

/-- However a session goes on, its scopes keep their owners. -/
theorem Session.Becomes.keepsOwners {before after : Session} (becomes : before.Becomes after) :
    before.KeepsOwners after := by
  -- Most changes move no scope. The order of scopes after them is known already.
  have still {before after : Session} (leads : before.Becomes after)
      (same : before.Undisturbed after) : before.KeepsOwners after :=
    .undisturbed leads.orders same
  induction becomes with
  | refl session => exact .aside rfl rfl
  | trans _ _ earlier later => exact earlier.trans later
  | aside executor scheduler => exact .aside executor scheduler
  | written writes session =>
      exact still (.written writes session)
        (.ofScheduler rfl (writes.identities _) (writes.nextId _))
  | globalSet name value session =>
      refine still (.globalSet name value session) (.ofScheduler rfl ?_ rfl)
      simp [Executor.setGlobal, ScopeStack.modifyGlobal, ScopeStack.identities_eq]
  | declared functions structs session =>
      exact still (.declared functions structs session) (.ofScheduler rfl rfl rfl)
  | shown positions output session =>
      exact still (.shown positions output session) (.ofScheduler rfl rfl rfl)
  | queued queue statistics session =>
      exact still (.queued queue statistics session) ⟨rfl, rfl, rfl, fun _ _ held => held⟩
  | registered fresh session =>
      refine still (.registered fresh session) ⟨rfl, rfl, rfl, fun id identity held => ?_⟩
      exact (Scheduler.savedId?_register fresh.scope id session.scheduler).symm.trans held
  | marked id spares session =>
      refine still (.marked id spares session) (.onTask (fun task identity held => ?_) id session)
      rw [spares.scope] at held
      exact held
  | completed id payload session idle =>
      refine still (.completed id payload session idle) (.onTask ?_ id session)
      exact fun _ _ held => held
  | @started id session idle =>
      refine still (.started idle) (.onTask (fun task identity held => ?_) id session)
      unfold Task.start at held
      split at held
      · exact held
      · cases held
  | published id receiver session =>
      refine still (.published id receiver session) (.onTask ?_ id session)
      exact fun _ _ held => held
  | siteChanged site keeps session =>
      exact still (.siteChanged site keeps session) (.modifySite keeps site session)
  | called new session => exact .called new session
  | returned new leads kept inside =>
      intro owners attributed
      obtain ⟨more, left⟩ := (Session.KeepsOwners.called new _).trans inside owners attributed
      exact ⟨more, attributed.returned (Session.Becomes.returned new leads kept).orders kept left⟩
  | entered entering => exact .entered entering
  | faulted entering leads kept inside =>
      intro owners attributed
      obtain ⟨more, left⟩ := (Session.KeepsOwners.entered entering).trans inside owners attributed
      refine ⟨more, attributed.stepped (Session.Becomes.faulted entering leads kept).orders kept rfl
        rfl (fun _ _ => rfl) (fun _ => ?_) left⟩
      exact entering.faulted_own (leads.orders.saved _ List.mem_cons_self) kept
  | settled entering leads kept spares scope inside =>
      intro owners attributed
      obtain ⟨more, left⟩ := (Session.KeepsOwners.entered entering).trans inside owners attributed
      have orders := (Session.Becomes.settled entering leads kept spares scope).orders
      refine ⟨more, attributed.stepped orders kept rfl rfl ?_
        (fun _ => Session.settled_own kept scope) left⟩
      exact fun other different => Scheduler.task?_modifyTask_of_ne different _ _

/-! ### What identities tell apart -/

theorem Scope.holds_iff {id : ScopeId} {scope : Scope} :
    scope.holds id = true ↔ scope.id = some id :=
  beq_iff_eq

namespace ScopeStack

theorem not_holds {id : ScopeId} {scopes : List Scope} (absent : some id ∉ scopes.map Scope.id)
    {scope : Scope} (member : scope ∈ scopes) : scope.holds id = false := by
  refine Bool.eq_false_iff.mpr fun holds => absent ?_
  rw [← Scope.holds_iff.mp holds]
  exact List.mem_map_of_mem member

theorem length_filter_holds {scopes : List Scope} (distinct : (scopes.map Scope.id).Nodup)
    (id : ScopeId) : (scopes.filter (Scope.holds id)).length ≤ 1 := by
  induction scopes with
  | nil => exact Nat.zero_le 1
  | cons scope rest ih =>
      obtain ⟨absent, later⟩ := List.nodup_cons.mp distinct
      cases holds : scope.holds id with
      | false =>
          rw [List.filter_cons_of_neg (by rw [holds]; exact Bool.false_ne_true)]
          exact ih later
      | true =>
          rw [Scope.holds_iff.mp holds] at absent
          have others : rest.filter (Scope.holds id) = [] := by
            refine List.filter_eq_nil_iff.mpr fun other member => ?_
            rw [not_holds absent member]
            exact Bool.false_ne_true
          rw [List.filter_cons_of_pos holds, others]
          exact Nat.le_refl 1

theorem map_not_holds {id : ScopeId} {scopes : List Scope} (absent : some id ∉ scopes.map Scope.id)
    (change : Scope → Scope) :
    (scopes.map fun scope => if scope.holds id then change scope else scope) = scopes := by
  refine (List.map_congr_left fun scope member => ?_).trans (List.map_id scopes)
  rw [not_holds absent member]
  rfl

theorem modifyFirstIn?_holds {id : ScopeId} {change : Scope → Scope} {scopes changed : List Scope}
    (distinct : (scopes.map Scope.id).Nodup)
    (found : modifyFirstIn? (Scope.holds id) change scopes = some changed) :
    changed = scopes.map fun scope => if scope.holds id then change scope else scope := by
  induction scopes generalizing changed with
  | nil => cases found
  | cons scope rest ih =>
      obtain ⟨absent, later⟩ := List.nodup_cons.mp distinct
      unfold modifyFirstIn? at found
      cases holds : scope.holds id with
      | true =>
          rw [holds, if_pos rfl] at found
          cases found
          rw [Scope.holds_iff.mp holds] at absent
          rw [List.map_cons, map_not_holds absent, holds, if_pos rfl]
      | false =>
          rw [holds, if_neg Bool.false_ne_true] at found
          obtain ⟨tail, changes, rfl⟩ := Option.map_eq_some_iff.mp found
          rw [List.map_cons, holds, if_neg Bool.false_ne_true, ih later changes]

end ScopeStack

/-- What identities are there for: by its identity a scope is told apart from all others, and by the
owners of the identities the scopes of one task from those of another. -/
structure Session.ScopesApart (owners : List (Option TaskId)) (session : Session) : Prop where
  count : owners.length = session.executor.scopes.nextId
  distinct : session.executor.scopes.identities.Nodup
  handedOut : ∀ identity ∈ session.executor.scopes.identities,
    ∃ id, identity = some id ∧ id.number < session.executor.scopes.nextId
  live : ∀ id, (session.executor.scopes.frames.filter (Scope.holds id)).length ≤ 1
  /-- The scopes on the stack that belong to tasks belong to those that are running. -/
  running : ownersOf owners session.executor.scopes.identities = session.scheduler.active
  unshared : ∀ first second id, session.scheduler.savedId? first = some id →
    session.scheduler.savedId? second = some id → first = second
  own : ∀ task id, session.scheduler.savedId? task = some id →
    some id ∈ session.executor.scopes.identities →
      task ∈ session.scheduler.active ∧ id.ownerIn owners = some task
  /-- Wherever a site leads, it leads to the scope of the owner of its identity. -/
  resolves : ∀ site scope, session.siteScope? site = some scope → scope.id = some site.frame ∧
    (scope ∈ session.executor.scopes.frames ∧
        (∀ task, site.frame.ownerIn owners = some task → task ∈ session.scheduler.active) ∨
      ∃ task, session.scheduler.savedScope? task = some scope ∧
        site.frame.ownerIn owners = some task)
  /-- A change at a site changes no other scopes. -/
  spares : ∀ (site : BindingSite) (change : Scope → Scope),
    (session.modifySite site change).executor.scopes.frames =
        session.executor.scopes.frames.map
          (fun scope => if scope.holds site.frame then change scope else scope) ∧
      ∀ task, site.frame.ownerIn owners ≠ some task →
        (session.modifySite site change).scheduler.savedScope? task =
          session.scheduler.savedScope? task

namespace Session.Attributed

variable {owners : List (Option TaskId)} {session : Session}
  (attributed : session.Attributed owners)

include attributed

theorem runs {id : ScopeId} {task : TaskId} (live : some id ∈ session.executor.scopes.identities)
    (owner : id.ownerIn owners = some task) : task ∈ session.scheduler.active := by
  rw [← attributed.running]
  exact List.mem_filterMap.mpr ⟨some id, live, owner⟩

theorem resolves {site : BindingSite} {scope : Scope}
    (found : session.siteScope? site = some scope) :
    scope.id = some site.frame ∧
      (scope ∈ session.executor.scopes.frames ∧
          (∀ task, site.frame.ownerIn owners = some task → task ∈ session.scheduler.active) ∨
        ∃ task, session.scheduler.savedScope? task = some scope ∧
          site.frame.ownerIn owners = some task) := by
  rw [siteScope?_eq] at found
  rcases Option.or_eq_some_iff.mp found with live | ⟨_, saved⟩
  · have holds : scope.id = some site.frame := Scope.holds_iff.mp (List.find?_some live)
    have member : scope ∈ session.executor.scopes.frames := List.mem_of_find?_eq_some live
    refine ⟨holds, .inl ⟨member, fun task owner => attributed.runs ?_ owner⟩⟩
    rw [← holds]
    exact List.mem_map_of_mem member
  · rw [savedSiteScope?_eq] at saved
    obtain ⟨owner, _, known⟩ := Option.bind_eq_some_iff.mp saved
    obtain ⟨known, holds⟩ := Option.filter_eq_some_iff.mp known
    have id := Scope.holds_iff.mp holds
    refine ⟨id, .inr ⟨owner, known, attributed.saved owner site.frame ?_⟩⟩
    unfold Scheduler.savedId?
    rw [known]
    exact id

theorem spares (site : BindingSite) (change : Scope → Scope) :
    (session.modifySite site change).executor.scopes.frames =
        session.executor.scopes.frames.map
          (fun scope => if scope.holds site.frame then change scope else scope) ∧
      ∀ task, site.frame.ownerIn owners ≠ some task →
        (session.modifySite site change).scheduler.savedScope? task =
          session.scheduler.savedScope? task := by
  have distinct := attributed.orderly.scopes.distinct
  have absent (gone : session.executor.scopes.frame? site.frame = none) :
      some site.frame ∉ session.executor.scopes.frames.map Scope.id := by
    intro member
    obtain ⟨scope, live, holds⟩ := List.mem_map.mp member
    exact List.find?_eq_none.mp gone scope live (Scope.holds_iff.mpr holds)
  rcases modifySite_cases site change session with
    ⟨scopes, modified, same⟩ | ⟨gone, owner, scope, _, saved, holds, same⟩ | ⟨nowhere, same⟩
  · rw [same]
    refine ⟨?_, fun _ _ => rfl⟩
    exact ScopeStack.modifyFirstIn?_holds distinct (ScopeStack.frames_of_modifyFrame? modified)
  · rw [same]
    refine ⟨(ScopeStack.map_not_holds (absent gone) change).symm, fun task other => ?_⟩
    refine Scheduler.savedScope?_modifyTask_of_ne ?_ _ session.scheduler
    rintro rfl
    refine other (attributed.saved task site.frame ?_)
    unfold Scheduler.savedId?
    rw [saved]
    exact Scope.holds_iff.mp holds
  · rw [same]
    rw [siteScope?_eq] at nowhere
    have gone := (Option.or_eq_none_iff.mp nowhere).1
    exact ⟨(ScopeStack.map_not_holds (absent gone) change).symm, fun _ _ => rfl⟩

theorem scopesApart : session.ScopesApart owners where
  count := attributed.count
  distinct := attributed.orderly.scopes.distinct
  handedOut := attributed.orderly.scopes.known
  live := ScopeStack.length_filter_holds attributed.orderly.scopes.distinct
  running := attributed.running
  unshared first second id one other :=
    Option.some.inj ((attributed.saved first id one).symm.trans (attributed.saved second id other))
  own task id held live :=
    ⟨attributed.runs live (attributed.saved task id held), attributed.saved task id held⟩
  resolves _ _ found := attributed.resolves found
  spares := attributed.spares

end Session.Attributed

end CooperativeTasks
