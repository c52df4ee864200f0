import CooperativeTasks.Proofs.Endings

set_option autoImplicit false

/-! The scopes that sites point at.

A site is a variable pinned to a scope by its identity. The scope is looked for on the stack and
then in the task that owns the site; a change at the site is made to the scope that is found, and
to no other. -/

namespace CooperativeTasks

namespace Bindings

variable {κ α : Type} [DecidableEq κ]

theorem get?_replace_self {key : κ} {entries : List (κ × α)} (present : contains key entries = true)
    (value : α) : get? key (replace key value entries) = some value := by
  rw [← insert_eq_replace value present]
  exact get?_insert_self key value entries

theorem get?_replace_of_ne {key other : κ} (different : other ≠ key) (value : α)
    (entries : List (κ × α)) : get? other (replace key value entries) = get? other entries := by
  induction entries with
  | nil => rfl
  | cons entry rest ih =>
      by_cases same : entry.1 = key
      · simp [replace, get?, same, different.symm]
      · simp [replace, get?, same, ih]

@[simp] theorem contains_replace (key other : κ) (value : α) (entries : List (κ × α)) :
    contains other (replace key value entries) = contains other entries := by
  unfold contains
  by_cases same : other = key
  · subst other
    cases present : contains key entries with
    | true =>
        rw [get?_replace_self present]
        exact present.symm
    | false =>
        have absent : replace key value entries = entries := by
          induction entries with
          | nil => rfl
          | cons entry rest ih =>
              by_cases here : entry.1 = key
              · simp [contains, get?, here] at present
              · simp only [contains, get?, here, if_false] at present
                simp [replace, here, ih present]
        rw [absent]
  · rw [get?_replace_of_ne same]

end Bindings

theorem memberName_ne (name member : String) : memberName name member ≠ name := by
  intro same
  have lengths := congrArg String.length same
  have dot : ".".length = 1 := rfl
  simp only [memberName, String.length_append] at lengths
  omega

namespace Scope

theorem get?_writeBack {name : String} {scope : Scope} (present : scope.contains name = true)
    (value : Value) (members : List (String × Value)) :
    (scope.writeBack name value members).get? name = some value := by
  have step (scope : Scope) (member : String) (entry : Value) :
      (scope.assignExisting (memberName name member) entry).get? name = scope.get? name :=
    Bindings.get?_replace_of_ne (memberName_ne name member).symm entry scope.bindings
  have start : (scope.assignExisting name value).get? name = some value :=
    Bindings.get?_replace_self present value
  unfold writeBack
  rw [← start]
  generalize scope.assignExisting name value = written
  induction members generalizing written with
  | nil => rfl
  | cons member rest ih => exact (ih _).trans (step written _ _)

end Scope

namespace ScopeStack

theorem find?_modifyFirstIn? {test wanted : Scope → Bool} {change : Scope → Scope}
    (keeps : ∀ scope, wanted (change scope) = wanted scope) {scopes changed : List Scope}
    (modified : modifyFirstIn? test change scopes = some changed) :
    changed.find? wanted = scopes.find? wanted ∨
      changed.find? wanted = (scopes.find? wanted).map change := by
  induction scopes generalizing changed with
  | nil => cases modified
  | cons first rest ih =>
      unfold modifyFirstIn? at modified
      split at modified
      · cases modified
        cases found : wanted first with
        | true => exact .inr (by simp [keeps, found])
        | false => exact .inl (by simp [keeps, found])
      · obtain ⟨tail, later, rfl⟩ := Option.map_eq_some_iff.mp modified
        cases found : wanted first with
        | true => exact .inl (by simp [found])
        | false =>
            simp only [List.find?_cons, found]
            exact ih later

theorem modifyFirstIn?_eq_none {test : Scope → Bool} {change : Scope → Scope} {scopes : List Scope} :
    modifyFirstIn? test change scopes = none ↔ scopes.find? test = none := by
  induction scopes with
  | nil => exact ⟨fun _ => rfl, fun _ => rfl⟩
  | cons first rest ih =>
      cases here : test first with
      | true => simp [modifyFirstIn?, here]
      | false => simpa [modifyFirstIn?, here] using ih

theorem find?_modifyFirstIn?_self {test : Scope → Bool} {change : Scope → Scope}
    (keeps : ∀ scope, test (change scope) = test scope) {scopes changed : List Scope}
    (modified : modifyFirstIn? test change scopes = some changed) :
    changed.find? test = (scopes.find? test).map change := by
  induction scopes generalizing changed with
  | nil => cases modified
  | cons first rest ih =>
      unfold modifyFirstIn? at modified
      cases here : test first with
      | true =>
          rw [here, if_pos rfl] at modified
          cases modified
          simp [keeps, here]
      | false =>
          rw [here, if_neg Bool.false_ne_true] at modified
          obtain ⟨tail, later, rfl⟩ := Option.map_eq_some_iff.mp modified
          simp only [List.find?_cons, here]
          exact ih later

theorem frames_of_modifyFrame? {id : ScopeId} {change : Scope → Scope} {stack changed : ScopeStack}
    (modified : stack.modifyFrame? id change = some changed) :
    modifyFirstIn? (Scope.holds id) change stack.frames = some changed.frames := by
  rw [← frames_modifyFirst?]
  unfold modifyFrame? at modified
  rw [modified]
  rfl

theorem modifyFrame?_eq_none {id : ScopeId} {change : Scope → Scope} {stack : ScopeStack} :
    stack.modifyFrame? id change = none ↔ stack.frame? id = none := by
  unfold frame?
  rw [← @modifyFirstIn?_eq_none _ change, ← frames_modifyFirst?]
  exact Option.map_eq_none_iff.symm

end ScopeStack

def Scheduler.savedScope? (id : TaskId) (scheduler : Scheduler) : Option Scope :=
  (scheduler.task? id).bind Task.scope

theorem Scheduler.savedScope?_modifyTask_of_ne {id other : TaskId} (different : other ≠ id)
    (change : Task → Task) (scheduler : Scheduler) :
    (scheduler.modifyTask id change).savedScope? other = scheduler.savedScope? other := by
  unfold savedScope?
  rw [task?_modifyTask_of_ne different]

theorem Scheduler.savedScope?_replaced {id : TaskId} {scheduler : Scheduler} {scope : Scope}
    (saved : scheduler.savedScope? id = some scope) (changed : Scope) :
    (scheduler.modifyTask id fun task => { task with scope := some changed }).savedScope? id =
      some changed := by
  obtain ⟨task, found, _⟩ := Option.bind_eq_some_iff.mp saved
  unfold savedScope?
  rw [task?_modifyTask_self, found]
  rfl

theorem Scheduler.savedScope?_modifyTask {change : Task → Task}
    (keeps : ∀ task, (change task).scope = task.scope) (id other : TaskId) (scheduler : Scheduler) :
    (scheduler.modifyTask id change).savedScope? other = scheduler.savedScope? other :=
  view_modifyTask (·.bind Task.scope) keeps id other scheduler

namespace Session

theorem savedSiteScope?_eq (site : BindingSite) (session : Session) :
    session.savedSiteScope? site =
      site.owner.bind fun owner =>
        (session.scheduler.savedScope? owner).filter (Scope.holds site.frame) := by
  unfold savedSiteScope? Scheduler.savedScope?
  cases site.owner with
  | none => rfl
  | some owner =>
      cases found : session.scheduler.task? owner with
      | none => simp [found]
      | some task => cases saved : task.scope <;> simp [found, saved, Option.filter]

theorem siteScope?_eq (site : BindingSite) (session : Session) :
    session.siteScope? site =
      (session.executor.scopes.frame? site.frame).or (session.savedSiteScope? site) := by
  unfold siteScope?
  cases session.executor.scopes.frame? site.frame <;> rfl

theorem modifySite_cases (site : BindingSite) (change : Scope → Scope) (session : Session) :
    (∃ scopes, session.executor.scopes.modifyFrame? site.frame change = some scopes ∧
      session.modifySite site change =
        { session with executor := { session.executor with scopes } }) ∨
    (session.executor.scopes.frame? site.frame = none ∧
      ∃ owner scope, site.owner = some owner ∧ session.scheduler.savedScope? owner = some scope ∧
        scope.holds site.frame = true ∧
        session.modifySite site change =
          session.onTask owner fun task => { task with scope := some (change scope) }) ∨
    session.siteScope? site = none ∧ session.modifySite site change = session := by
  unfold modifySite
  rw [siteScope?_eq]
  cases modified : session.executor.scopes.modifyFrame? site.frame change with
  | some scopes => exact .inl ⟨scopes, rfl, rfl⟩
  | none =>
      rw [ScopeStack.modifyFrame?_eq_none.mp modified]
      dsimp only
      cases saved : session.savedSiteScope? site with
      | none => exact .inr (.inr ⟨rfl, by cases site.owner <;> rfl⟩)
      | some scope =>
          rw [savedSiteScope?_eq] at saved
          obtain ⟨owner, owned, known⟩ := Option.bind_eq_some_iff.mp saved
          obtain ⟨known, holds⟩ := Option.filter_eq_some_iff.mp known
          refine .inr (.inl ⟨rfl, owner, scope, owned, known, holds, ?_⟩)
          rw [owned]
          rfl

theorem siteScope?_congr {first second : Session} (site : BindingSite)
    (scopes : second.executor.scopes.frame? site.frame = first.executor.scopes.frame? site.frame)
    (saved : ∀ id, second.scheduler.savedScope? id = first.scheduler.savedScope? id) :
    second.siteScope? site = first.siteScope? site := by
  rw [siteScope?_eq, siteScope?_eq, scopes, savedSiteScope?_eq, savedSiteScope?_eq]
  simp only [saved]

variable {session : Session} {change : Scope → Scope} (keeps : ∀ scope, (change scope).id = scope.id)

include keeps

theorem holds_changed (id : ScopeId) (scope : Scope) : (change scope).holds id = scope.holds id := by
  unfold Scope.holds
  rw [keeps]

theorem siteScope?_modifySite_self {site : BindingSite} {scope : Scope}
    (found : session.siteScope? site = some scope) :
    (session.modifySite site change).siteScope? site = some (change scope) := by
  rcases modifySite_cases site change session with
    ⟨scopes, modified, same⟩ | ⟨gone, owner, held, owned, saved, holds, same⟩ | ⟨absent, _⟩
  · have here : scopes.frame? site.frame = (session.executor.scopes.frame? site.frame).map change :=
      ScopeStack.find?_modifyFirstIn?_self (holds_changed keeps site.frame)
        (ScopeStack.frames_of_modifyFrame? modified)
    rw [siteScope?_eq] at found
    rw [same, siteScope?_eq]
    dsimp only
    cases frame : session.executor.scopes.frame? site.frame with
    | none =>
        rw [ScopeStack.modifyFrame?_eq_none.mpr frame] at modified
        cases modified
    | some live =>
        rw [frame] at found here
        cases found
        rw [here]
        rfl
  · have replaced := Scheduler.savedScope?_replaced saved (change held)
    rw [siteScope?_eq, gone, savedSiteScope?_eq, owned] at found
    simp only [Option.bind_some, saved, Option.filter_some, holds, if_true, Option.none_or,
      Option.some.injEq] at found
    subst held
    rw [same, siteScope?_eq, savedSiteScope?_eq, owned]
    unfold onTask
    simp only [gone, Option.bind_some, replaced, Option.filter_some, holds_changed keeps, holds,
      if_true, Option.none_or]
  · rw [absent] at found
    cases found

theorem savedSiteScope?_replaced {owner : TaskId} {held : Scope}
    (saved : session.scheduler.savedScope? owner = some held) (site : BindingSite) :
    let after := session.onTask owner fun task => { task with scope := some (change held) }
    after.savedSiteScope? site = session.savedSiteScope? site ∨
      after.savedSiteScope? site = (session.savedSiteScope? site).map change := by
  intro after
  rw [savedSiteScope?_eq, savedSiteScope?_eq]
  cases owned : site.owner with
  | none => exact .inl rfl
  | some other =>
      rw [Option.bind_some, Option.bind_some]
      by_cases own : other = owner
      · subst other
        have replaced : after.scheduler.savedScope? owner = some (change held) :=
          Scheduler.savedScope?_replaced saved (change held)
        rw [replaced, saved, Option.filter_some, Option.filter_some, holds_changed keeps]
        refine .inr ?_
        split <;> rfl
      · exact .inl (congrArg (Option.filter _) (Scheduler.savedScope?_modifyTask_of_ne own _ _))

/-- A change at one site leaves the scope of any other as it is, or changes it. -/
theorem siteScope?_modifySite (changed site : BindingSite) :
    (session.modifySite changed change).siteScope? site = session.siteScope? site ∨
      (session.modifySite changed change).siteScope? site =
        (session.siteScope? site).map change := by
  rcases modifySite_cases changed change session with
    ⟨scopes, modified, same⟩ | ⟨_, owner, held, _, saved, _, same⟩ | ⟨_, same⟩
  · have looked : scopes.frame? site.frame = session.executor.scopes.frame? site.frame ∨
        scopes.frame? site.frame = (session.executor.scopes.frame? site.frame).map change :=
      ScopeStack.find?_modifyFirstIn? (holds_changed keeps site.frame)
        (ScopeStack.frames_of_modifyFrame? modified)
    rw [same, siteScope?_eq, siteScope?_eq]
    change (scopes.frame? site.frame).or (session.savedSiteScope? site) = _ ∨
      (scopes.frame? site.frame).or (session.savedSiteScope? site) = _
    rcases looked with kept | altered
    · exact .inl (by rw [kept])
    · rw [altered]
      cases session.executor.scopes.frame? site.frame with
      | none => exact .inl rfl
      | some frame => exact .inr rfl
  · have kept := savedSiteScope?_replaced keeps saved site
    rw [same, siteScope?_eq, siteScope?_eq]
    change (session.executor.scopes.frame? site.frame).or _ = _ ∨
      (session.executor.scopes.frame? site.frame).or _ = _
    cases session.executor.scopes.frame? site.frame with
    | none => exact kept
    | some frame => exact .inl rfl
  · rw [same]
    exact .inl rfl

end Session

end CooperativeTasks
