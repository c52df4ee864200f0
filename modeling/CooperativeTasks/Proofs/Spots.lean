import CooperativeTasks.Proofs.Marks
import CooperativeTasks.Proofs.Orderly
import CooperativeTasks.Proofs.Sites

set_option autoImplicit false

/-! All the scopes of a session, and what a write at a site does to each of them.

Scopes are kept on the stack and with the tasks that put them aside. A site points at one of these
spots or at none. What is written there shows up at this spot and nowhere else, in names that are
bound already. -/

namespace CooperativeTasks

namespace Bindings

variable {κ α : Type} [DecidableEq κ]

theorem get?_append (key : κ) (first second : List (κ × α)) :
    get? key (first ++ second) = (get? key first).or (get? key second) := by
  induction first with
  | nil => rfl
  | cons entry rest ih =>
      by_cases same : entry.1 = key
      · simp [get?, same]
      · simpa [get?, same] using ih

theorem get?_replace (key other : κ) (value : α) (entries : List (κ × α)) :
    get? other (replace key value entries) =
      (get? other entries).map fun old => if key = other then value else old := by
  by_cases same : key = other
  · subst other
    induction entries with
    | nil => rfl
    | cons entry rest ih =>
        by_cases here : entry.1 = key
        · simp [replace, get?, here]
        · simpa [replace, get?, here] using ih
  · rw [get?_replace_of_ne (Ne.symm same)]
    simp [same]

theorem get?_insertAll (additions entries : List (κ × α)) (key : κ) :
    get? key (insertAll additions entries) =
      (get? key additions.reverse).or (get? key entries) := by
  induction additions generalizing entries with
  | nil => rfl
  | cons addition rest ih =>
      change get? key (insertAll rest (insert addition.1 addition.2 entries)) = _
      rw [ih, List.reverse_cons, get?_append, Option.or_assoc]
      congr 1
      by_cases same : addition.1 = key
      · subst key
        simp [get?]
      · have different : key ≠ addition.1 := fun equal => same equal.symm
        simp [get?, same, get?_insert_of_ne different]

theorem get?_reverse {entries : List (κ × α)} (distinct : (entries.map Prod.fst).Nodup) (key : κ) :
    get? key entries.reverse = get? key entries := by
  induction entries with
  | nil => rfl
  | cons entry rest ih =>
      rw [List.map_cons, List.nodup_cons] at distinct
      rw [List.reverse_cons, get?_append, ih distinct.2]
      by_cases same : entry.1 = key
      · have absent : get? key rest = none := by
          rw [← same]
          exact get?_eq_none distinct.1
        simp [get?, same, absent]
      · simp [get?, same]

end Bindings

namespace Scope

/-- What can be told of a scope without its values: its identity and its names, in their order. -/
def outline (scope : Scope) : Option ScopeId × List String :=
  (scope.id, scope.bindings.map Prod.fst)

/-- Overwrites the entries that are there, first to last. -/
def assignAll (entries : List (String × Value)) (scope : Scope) : Scope :=
  entries.foldl (fun written entry => written.assignExisting entry.1 entry.2) scope

theorem get?_assignExisting (name other : String) (value : Value) (scope : Scope) :
    (scope.assignExisting name value).get? other =
      (scope.get? other).map fun old => if name = other then value else old :=
  Bindings.get?_replace name other value scope.bindings

theorem outline_assignExisting (name : String) (value : Value) (scope : Scope) :
    (scope.assignExisting name value).outline = scope.outline := by
  simp [outline, assignExisting]

theorem get?_assignAll (entries : List (String × Value)) (name : String) (scope : Scope) :
    (scope.assignAll entries).get? name =
      (scope.get? name).map fun old => (Bindings.get? name entries.reverse).getD old := by
  induction entries generalizing scope with
  | nil => simp [assignAll, Bindings.get?]
  | cons entry rest ih =>
      change (assignAll rest (scope.assignExisting entry.1 entry.2)).get? name = _
      rw [ih, get?_assignExisting, Option.map_map, List.reverse_cons, Bindings.get?_append]
      congr 1
      funext old
      by_cases same : entry.1 = name
      · cases Bindings.get? name rest.reverse <;> simp [Bindings.get?, same]
      · simp [Bindings.get?, same]

theorem outline_assignAll (entries : List (String × Value)) (scope : Scope) :
    (scope.assignAll entries).outline = scope.outline := by
  induction entries generalizing scope with
  | nil => rfl
  | cons entry rest ih =>
      exact (ih _).trans (outline_assignExisting entry.1 entry.2 scope)

theorem writeBack_eq (name : String) (value : Value) (members : List (String × Value))
    (scope : Scope) :
    scope.writeBack name value members =
      scope.assignAll ((name, value) ::
        members.map fun entry => (memberName name entry.1, entry.2)) := by
  unfold writeBack assignAll
  rw [List.foldl_cons, List.foldl_map]

end Scope

/-- Where a scope is kept: on the stack, counted from the innermost, or with a task. -/
inductive Spot where
  | live (index : Nat)
  | saved (task : TaskId)
  deriving DecidableEq

namespace Session

def scopeAt? (session : Session) : Spot → Option Scope
  | .live index => session.executor.scopes.frames[index]?
  | .saved id => session.scheduler.savedScope? id

/-- What a name is bound to in the scope at a spot. -/
def bound? (session : Session) (spot : Spot) (name : String) : Option Value :=
  (session.scopeAt? spot).bind (Scope.get? name)

/-- The spot at which a site points: the innermost scope on the stack that has the identity, or
else the scope that the owner has put aside, if it has the identity. -/
def spot? (site : BindingSite) (session : Session) : Option Spot :=
  match session.executor.scopes.frames.findIdx? (Scope.holds site.frame) with
  | some index => some (.live index)
  | none =>
      site.owner.bind fun owner =>
        if (session.scheduler.savedScope? owner).any (Scope.holds site.frame) then
          some (.saved owner)
        else none

/-- Nothing has changed but what scopes hold, on the stack and off it, and more may have been
recorded. -/
structure ScopesOnly (before after : Session) : Prop where
  executor : after.executor = { before.executor with scopes := after.executor.scopes }
  nextId : after.executor.scopes.nextId = before.executor.scopes.nextId
  scheduler : after.scheduler = { before.scheduler with tasks := after.scheduler.tasks }
  tasks : ∀ id, after.scheduler.task? id =
    (before.scheduler.task? id).map fun task =>
      { task with scope := after.scheduler.savedScope? id }
  clock : after.clock = before.clock
  budget : after.budget = before.budget
  journal : before.journal <:+ after.journal

/-- Values have been written over names that are bound, and nothing else has been done. At each spot
the function says what has been written over a name there. -/
structure Overwritten (report? : Spot → String → Option Value) (before after : Session) : Prop
    extends ScopesOnly before after where
  outline : ∀ spot,
    (after.scopeAt? spot).map Scope.outline = (before.scopeAt? spot).map Scope.outline
  bound : ∀ spot name, after.bound? spot name =
    (before.bound? spot name).map fun old => (report? spot name).getD old

end Session

/-! ### Spots -/

namespace ScopeStack

theorem modifyFirstIn?_eq (test : Scope → Bool) (change : Scope → Scope) (scopes : List Scope) :
    modifyFirstIn? test change scopes =
      (scopes.findIdx? test).map fun index => scopes.modify index change := by
  induction scopes with
  | nil => rfl
  | cons first rest ih =>
      cases here : test first with
      | true => simp [modifyFirstIn?, List.findIdx?_cons, here]
      | false =>
          simp only [modifyFirstIn?, here, List.findIdx?_cons, ih, Bool.false_eq_true, if_false,
            Option.map_map]
          rfl

theorem find?_eq_bind (test : Scope → Bool) (scopes : List Scope) :
    scopes.find? test = (scopes.findIdx? test).bind fun index => scopes[index]? := by
  induction scopes with
  | nil => rfl
  | cons first rest ih =>
      cases here : test first with
      | true => simp [List.findIdx?_cons, here]
      | false =>
          simp only [List.find?_cons, List.findIdx?_cons, here, ih, Bool.false_eq_true, if_false,
            Option.bind_map]
          rfl

end ScopeStack

namespace Session

variable {session : Session}

theorem spot?_live {site : BindingSite} {index : Nat}
    (live : session.executor.scopes.frames.findIdx? (Scope.holds site.frame) = some index) :
    session.spot? site = some (.live index) := by
  simp [spot?, live]

theorem spot?_saved {site : BindingSite} {owner : TaskId} {scope : Scope}
    (gone : session.executor.scopes.frame? site.frame = none) (owned : site.owner = some owner)
    (saved : session.scheduler.savedScope? owner = some scope)
    (holds : scope.holds site.frame = true) : session.spot? site = some (.saved owner) := by
  have absent : session.executor.scopes.frames.findIdx? (Scope.holds site.frame) = none := by
    rw [ScopeStack.frame?, List.find?_eq_none] at gone
    rw [List.findIdx?_eq_none_iff]
    simpa using gone
  simp [spot?, absent, owned, saved, holds]

theorem siteScope?_eq_bind (site : BindingSite) (session : Session) :
    session.siteScope? site = (session.spot? site).bind session.scopeAt? := by
  rw [siteScope?_eq, savedSiteScope?_eq, ScopeStack.frame?, ScopeStack.find?_eq_bind]
  unfold spot?
  cases live : session.executor.scopes.frames.findIdx? (Scope.holds site.frame) with
  | some index =>
      obtain ⟨within, _⟩ := List.findIdx?_eq_some_iff_getElem.mp live
      simp [scopeAt?, within]
  | none =>
      cases site.owner with
      | none => rfl
      | some owner =>
          cases saved : session.scheduler.savedScope? owner with
          | none => simp [saved]
          | some scope =>
              by_cases holds : scope.holds site.frame = true
              · simp [scopeAt?, saved, holds]
              · simp [saved, holds]

theorem scopeAt?_modifySite (site : BindingSite) (change : Scope → Scope) (spot : Spot) :
    (session.modifySite site change).scopeAt? spot =
      if session.spot? site = some spot then (session.scopeAt? spot).map change
      else session.scopeAt? spot := by
  rcases modifySite_cases site change session with
    ⟨scopes, modified, same⟩ | ⟨gone, owner, scope, owned, saved, holds, same⟩ | ⟨absent, same⟩
  · have frames := ScopeStack.frames_of_modifyFrame? modified
    rw [ScopeStack.modifyFirstIn?_eq] at frames
    obtain ⟨index, live, frames⟩ := Option.map_eq_some_iff.mp frames
    rw [same, spot?_live live]
    cases spot with
    | live other =>
        simp only [scopeAt?, ← frames, List.getElem?_modify, Option.some.injEq, Spot.live.injEq]
        split <;> simp
    | saved id => simp [scopeAt?]
  · rw [same, spot?_saved gone owned saved holds]
    cases spot with
    | live index => simp [scopeAt?, onTask]
    | saved other =>
        by_cases own : owner = other
        · subst other
          simp only [scopeAt?, onTask, if_true, saved, Option.map_some]
          exact Scheduler.savedScope?_replaced saved (change scope)
        · simp only [scopeAt?, onTask, Option.some.injEq, Spot.saved.injEq, own, if_false]
          exact Scheduler.savedScope?_modifyTask_of_ne (Ne.symm own) _ _
  · rw [same]
    split
    · rename_i points
      rw [siteScope?_eq_bind, points, Option.bind_some] at absent
      rw [absent]
      rfl
    · rfl

theorem spot?_congr {before after : Session}
    (outline : ∀ spot, (after.scopeAt? spot).map Scope.outline =
      (before.scopeAt? spot).map Scope.outline) (site : BindingSite) :
    after.spot? site = before.spot? site := by
  have identities (spot : Spot) : (after.scopeAt? spot).map Scope.id =
      (before.scopeAt? spot).map Scope.id := by
    have same := congrArg (Option.map Prod.fst) (outline spot)
    simpa [Option.map_map, Function.comp_def, Scope.outline] using same
  have holds : Scope.holds site.frame = (· == some site.frame) ∘ Scope.id := rfl
  have stack : after.executor.scopes.frames.map Scope.id =
      before.executor.scopes.frames.map Scope.id := by
    apply List.ext_getElem?
    intro index
    simpa [scopeAt?] using identities (.live index)
  have saved (owner : TaskId) :
      (after.scheduler.savedScope? owner).any (Scope.holds site.frame) =
        (before.scheduler.savedScope? owner).any (Scope.holds site.frame) := by
    have same := congrArg (Option.any (· == some site.frame)) (identities (.saved owner))
    rw [Option.any_map, Option.any_map] at same
    exact same
  unfold spot?
  rw [holds, ← List.findIdx?_map, ← List.findIdx?_map, stack, ← holds]
  simp only [saved]

end Session

/-! ### Writes -/

theorem Scheduler.task?_eq_savedScope? (id : TaskId) (scheduler : Scheduler) :
    scheduler.task? id =
      (scheduler.task? id).map fun task => { task with scope := scheduler.savedScope? id } := by
  cases found : scheduler.task? id with
  | none => rfl
  | some task => simp [savedScope?, found]

namespace Session.ScopesOnly

variable {before after : Session}

theorem ofStack
    (executor : after.executor = { before.executor with scopes := after.executor.scopes })
    (nextId : after.executor.scopes.nextId = before.executor.scopes.nextId)
    (scheduler : after.scheduler = before.scheduler) (clock : after.clock = before.clock)
    (budget : after.budget = before.budget) (journal : before.journal <:+ after.journal) :
    before.ScopesOnly after where
  executor := executor
  nextId := nextId
  scheduler := by rw [scheduler]
  tasks id := by
    rw [scheduler]
    exact Scheduler.task?_eq_savedScope? id before.scheduler
  clock := clock
  budget := budget
  journal := journal

theorem trans {first second third : Session} (earlier : first.ScopesOnly second)
    (later : second.ScopesOnly third) : first.ScopesOnly third where
  executor := by rw [later.executor, earlier.executor]
  nextId := later.nextId.trans earlier.nextId
  scheduler := by rw [later.scheduler, earlier.scheduler]
  tasks id := by
    rw [later.tasks, earlier.tasks, Option.map_map]
    rfl
  clock := later.clock.trans earlier.clock
  budget := later.budget.trans earlier.budget
  journal := earlier.journal.trans later.journal

theorem onScope (id : TaskId) (scope : Scope) (session : Session) :
    session.ScopesOnly (session.onTask id fun task => { task with scope := some scope }) where
  executor := rfl
  nextId := rfl
  scheduler := rfl
  tasks other := by
    by_cases same : other = id
    · subst other
      cases found : session.scheduler.task? id with
      | none => simp [onTask, Scheduler.task?_modifyTask_self, found]
      | some task =>
          simp [onTask, Scheduler.savedScope?, Scheduler.task?_modifyTask_self, found]
    · simp only [onTask, Scheduler.savedScope?_modifyTask_of_ne same,
        Scheduler.task?_modifyTask_of_ne same]
      exact Scheduler.task?_eq_savedScope? other session.scheduler
  clock := rfl
  budget := rfl
  journal := List.suffix_refl session.journal

theorem modifySite (site : BindingSite) (change : Scope → Scope) (session : Session) :
    session.ScopesOnly (session.modifySite site change) := by
  rcases modifySite_cases site change session with
    ⟨scopes, modified, same⟩ | ⟨_, owner, scope, _, _, _, same⟩ | ⟨_, same⟩
  · rw [same]
    exact ofStack rfl (ScopeStack.nextId_modifyFirst? modified) rfl rfl rfl (List.suffix_refl _)
  · rw [same]
    exact onScope owner (change scope) session
  · rw [same]
    exact ofStack rfl rfl rfl rfl rfl (List.suffix_refl _)

end Session.ScopesOnly

namespace Session.Overwritten

variable {before after : Session}

theorem ofSame (executor : after.executor = before.executor)
    (scheduler : after.scheduler = before.scheduler) (clock : after.clock = before.clock)
    (budget : after.budget = before.budget) (journal : before.journal <:+ after.journal) :
    before.Overwritten (fun _ _ => none) after := by
  have scopes (spot : Spot) : after.scopeAt? spot = before.scopeAt? spot := by
    cases spot <;> simp [scopeAt?, executor, scheduler]
  have kept : before.ScopesOnly after :=
    .ofStack (by rw [executor]) (by rw [executor]) scheduler clock budget journal
  refine ⟨kept, fun spot => ?_, fun spot name => ?_⟩
  · rw [scopes]
  · simp [bound?, scopes]

theorem trans {first second third : Session} {earlier? later? : Spot → String → Option Value}
    (earlier : first.Overwritten earlier? second) (later : second.Overwritten later? third) :
    first.Overwritten (fun spot name => (later? spot name).or (earlier? spot name)) third where
  toScopesOnly := earlier.toScopesOnly.trans later.toScopesOnly
  outline spot := (later.outline spot).trans (earlier.outline spot)
  bound spot name := by
    rw [later.bound, earlier.bound, Option.map_map]
    congr 1
    funext old
    cases later? spot name <;> rfl

theorem modifySite {site : BindingSite} {change : Scope → Scope} {report? : String → Option Value}
    (outline : ∀ scope, (change scope).outline = scope.outline)
    (bound : ∀ scope name, (change scope).get? name =
      (scope.get? name).map fun old => (report? name).getD old) (session : Session) :
    session.Overwritten
      (fun spot name => if session.spot? site = some spot then report? name else none)
      (session.modifySite site change) := by
  refine ⟨.modifySite site change session, fun spot => ?_, fun spot name => ?_⟩
  · rw [scopeAt?_modifySite]
    split
    · simp [outline, Function.comp_def]
    · rfl
  · unfold bound?
    rw [scopeAt?_modifySite]
    split
    · cases session.scopeAt? spot with
      | none => rfl
      | some scope => exact bound scope name
    · simp

theorem congr {first? second? : Spot → String → Option Value}
    (overwritten : before.Overwritten first? after)
    (same : ∀ spot name, (before.bound? spot name).isSome → first? spot name = second? spot name) :
    before.Overwritten second? after where
  toScopesOnly := overwritten.toScopesOnly
  outline := overwritten.outline
  bound spot name := by
    rw [overwritten.bound]
    cases present : before.bound? spot name with
    | none => rfl
    | some old => simp [same spot name (by rw [present]; rfl)]

theorem spot? {report? : Spot → String → Option Value}
    (overwritten : before.Overwritten report? after) (site : BindingSite) :
    after.spot? site = before.spot? site :=
  spot?_congr overwritten.outline site

end Session.Overwritten

end CooperativeTasks
