import CooperativeTasks.Proofs.VeiledTasks

set_option autoImplicit false

/-! Sessions with scopes beneath them, next to sessions without.

Every change that running code makes to a session can be made to both of them. Entering a call or a step
puts a scope above the covered ones, leaving it takes that scope away. A task that is finished writes to
the scope of whoever started it, which may be a covered one: then only one of the two sessions has it. -/

namespace CooperativeTasks

structure Session.Veiled (veil : Veil) (first second : Session) : Prop where
  scopes : veil.Covers first.executor.scopes second.executor.scopes
  scheduler : veil.Alike first.scheduler second.scheduler
  settings : second.executor.settings = first.executor.settings
  functions : second.executor.functions = first.executor.functions
  structs : second.executor.structs = first.executor.structs
  callDepth : second.executor.callDepth = first.executor.callDepth
  output : second.executor.output = first.executor.output
  /-- Who runs, and how: below all scopes that may be different. -/
  context : 0 < veil.height →
    second.executor.currentTask = first.executor.currentTask ∧
      second.executor.autoYield = first.executor.autoYield ∧
      second.executor.positions = first.executor.positions
  clock : second.clock = first.clock
  unlimited : first.budget = none ∧ second.budget = none

def Veil.called (veil : Veil) : Veil := { veil with height := veil.height + 1 }

def Veil.entered (veil : Veil) (id : TaskId) : Veil :=
  { veil with height := veil.height + 1, begun := id :: veil.begun }

/-- Whatever a site points at, it is in no case above the covered scopes. -/
def Veil.Beneath (veil : Veil) (site : BindingSite) (scopes : ScopeStack) : Prop :=
  some site.frame ∈ veil.ids ∨
    scopes.frame? site.frame = none ∧ ∃ owner ∈ veil.running, site.owner = some owner

namespace Session.Veiled

variable {veil : Veil} {first second : Session} (veiled : Veiled veil first second)

include veiled

theorem onScheduler {scheduler scheduler' : Scheduler} (alike : veil.Alike scheduler scheduler') :
    Veiled veil { first with scheduler } { second with scheduler := scheduler' } :=
  { veiled with scheduler := alike }

theorem onScopes {scopes scopes' : ScopeStack} (covers : veil.Covers scopes scopes') :
    Veiled veil { first with executor := { first.executor with scopes } }
      { second with executor := { second.executor with scopes := scopes' } } :=
  { veiled with scopes := covers }

/-! ### Brackets -/

theorem enteringCall {scope : Scope} (new : scope.id = none) :
    Veiled veil.called (first.enteringCall scope) (second.enteringCall scope) := by
  refine
    { veiled with
      scopes := veiled.scopes.push fun id held => ?_
      scheduler := veiled.scheduler.raised _
      callDepth := congrArg (· + 1) veiled.callDepth
      context := fun _ => ⟨rfl, rfl, rfl⟩ }
  rw [new] at held
  cases held

theorem leavingCall {left left' : Session} (inside : Veiled veil.called left left') :
    Veiled veil (left.leavingCall first.executor) (left'.leavingCall second.executor) :=
  { inside with
    scopes := veiled.scopes.pop inside.scopes
    scheduler := inside.scheduler.raised _
    callDepth := congrArg (· - 1) inside.callDepth
    context := veiled.context }

theorem enteringTask (id : TaskId) {task : Task}
    (apart : ∀ identity, task.scope.bind Scope.id = some identity → some identity ∉ veil.ids) :
    Veiled (veil.entered id) (first.enteringTask id task) (second.enteringTask id task) := by
  have fresh (identity : ScopeId) (held : (task.scope.getD {}).id = some identity) :
      some identity ∉ veil.ids := by
    refine apart identity ?_
    cases saved : task.scope with
    | none =>
        rw [saved] at held
        cases held
    | some scope =>
        rw [saved] at held
        exact held
  exact
    { veiled with
      scopes := (veiled.scopes.push fresh).begun _
      scheduler := veiled.scheduler.enter id
      context := fun _ => ⟨rfl, rfl, rfl⟩ }

theorem leavingTask {id : TaskId} {task task' : Task} {left left' : Session}
    (inside : Veiled (veil.entered id) left left') :
    Veiled veil (left.leavingTask id task first.executor)
      (left'.leavingTask id task' second.executor) :=
    { inside with
      scopes := veiled.scopes.pop (inside.scopes.begun veil.begun)
      scheduler := .leave inside.scheduler
      context := veiled.context }

/-! ### Sites -/

section Sites

variable {site : BindingSite} {change : Scope → Scope}

theorem modifySite_first (keeps : ∀ scope, (change scope).id = scope.id)
    (awaited : some site.frame ∈ veil.ids → veil.awaits site.frame)
    (below : veil.Beneath site first.executor.scopes) :
    Veiled veil (first.modifySite site change) second := by
  rcases below with member | ⟨absent, owner, running, owned⟩
  · obtain ⟨_, changed, modified, covers⟩ :=
      veiled.scopes.modifyFrame?_hidden keeps member (awaited member)
    unfold Session.modifySite
    rw [modified]
    exact { veiled with scopes := covers }
  · rcases modifySite_cases site change first with
      ⟨scopes, modified, _⟩ | ⟨_, owner', scope, owned', _, _, same⟩ | ⟨_, same⟩
    · rw [ScopeStack.modifyFrame?_eq_none.mpr absent] at modified
      cases modified
    · rw [owned] at owned'
      cases owned'
      rw [same]
      exact { veiled with scheduler := (veiled.scheduler.savedBelow running _).1 }
    · rw [same]
      exact veiled

theorem modifySite_second (below : veil.Beneath site second.executor.scopes) :
    Veiled veil first (second.modifySite site change) := by
  have absent : second.executor.scopes.frame? site.frame = none := by
    rcases below with member | ⟨absent, _⟩
    · refine List.find?_eq_none.mpr fun scope here holds => ?_
      refine veiled.scopes.apart (some site.frame) ?_ member
      exact List.mem_map.mpr ⟨scope, here, by simpa [Scope.holds] using holds⟩
    · exact absent
  rcases modifySite_cases site change second with
    ⟨scopes, modified, _⟩ | ⟨_, owner, scope, owned, saved, holds, same⟩ | ⟨_, same⟩
  · rw [ScopeStack.modifyFrame?_eq_none.mpr absent] at modified
    cases modified
  · have running : owner ∈ veil.running := by
      rcases below with member | ⟨_, owner', running, owned'⟩
      · refine Classical.byContradiction fun aside => ?_
        have known : first.scheduler.savedId? owner = some site.frame := by
          unfold Scheduler.savedScope? at saved
          rw [veiled.scheduler.idle aside] at saved
          unfold Scheduler.savedId? Scheduler.savedScope?
          rw [saved]
          simpa [Scope.holds] using holds
        exact veiled.scheduler.savedId?_apart aside known member
      · rw [owned] at owned'
        cases owned'
        exact running
    rw [same]
    exact { veiled with scheduler := (veiled.scheduler.savedBelow running _).2 }
  · rw [same]
    exact veiled

theorem site_cases (site : BindingSite) :
    (veil.Beneath site first.executor.scopes ∧ veil.Beneath site second.executor.scopes) ∨
      second.siteScope? site = first.siteScope? site ∧
        ∀ change, (∀ scope, (change scope).id = scope.id) →
          Veiled veil (first.modifySite site change) (second.modifySite site change) := by
  -- Either the scope is covered, or it is live above the covered ones, or it is saved in a task, if
  -- at all.
  by_cases member : some site.frame ∈ veil.ids
  · exact .inl ⟨.inl member, .inl member⟩
  have frames : second.executor.scopes.frame? site.frame = first.executor.scopes.frame? site.frame :=
    veiled.scopes.find? (veiled.scopes.misses_of_apart member)
  cases live : first.executor.scopes.frame? site.frame with
  | some scope =>
      rw [live] at frames
      refine .inr ⟨?_, fun change keeps => ?_⟩
      · rw [siteScope?_eq, siteScope?_eq, live, frames]
        rfl
      · rcases veiled.scopes.modifyFirst? keeps (veiled.scopes.misses_of_apart member) with
          ⟨impossible, _⟩ | ⟨changed, changed', here, there, covers⟩
        · rw [ScopeStack.modifyFrame?_eq_none.mp impossible] at live
          cases live
        · unfold Session.modifySite ScopeStack.modifyFrame?
          rw [here, there]
          exact veiled.onScopes covers
  | none =>
      rw [live] at frames
      by_cases below : ∃ owner ∈ veil.running, site.owner = some owner
      · exact .inl ⟨.inr ⟨live, below⟩, .inr ⟨frames, below⟩⟩
      have aside {owner : TaskId} (owned : site.owner = some owner) : owner ∉ veil.running :=
        fun running => below ⟨owner, running, owned⟩
      have saved : second.savedSiteScope? site = first.savedSiteScope? site := by
        rw [savedSiteScope?_eq, savedSiteScope?_eq]
        cases owned : site.owner with
        | none => rfl
        | some owner =>
            unfold Scheduler.savedScope?
            rw [Option.bind_some, Option.bind_some, veiled.scheduler.idle (aside owned)]
      refine .inr ⟨?_, fun change keeps => ?_⟩
      · rw [siteScope?_eq, siteScope?_eq, live, frames, saved]
      · unfold Session.modifySite
        rw [ScopeStack.modifyFrame?_eq_none.mpr live, ScopeStack.modifyFrame?_eq_none.mpr frames, saved]
        cases owned : site.owner with
        | none => exact veiled
        | some owner =>
            cases held : first.savedSiteScope? site with
            | none => exact veiled
            | some scope =>
                refine veiled.onScheduler (veiled.scheduler.onIdle (aside owned) ?_ ?_)
                · intro task found identity known
                  rw [savedSiteScope?_eq, owned, Option.bind_some] at held
                  have own := (Option.filter_eq_some_iff.mp held).1
                  refine veiled.scheduler.savedId?_apart (aside owned) ?_
                  unfold Scheduler.savedId?
                  rw [own]
                  exact (keeps scope).symm.trans known
                · exact fun _ _ reported => reported

end Sites

end Session.Veiled

end CooperativeTasks
