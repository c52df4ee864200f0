import CooperativeTasks.Proofs.Heeding
import CooperativeTasks.Proofs.Mirroring
import CooperativeTasks.Proofs.Orderly
import CooperativeTasks.Proofs.WriteBack

set_option autoImplicit false

/-! What lies beneath a step, and the same step with nothing beneath it.

A step that is run from inside other steps and calls has their scopes below its own and their tasks
marked as running. Here such a session stands next to one in which those scopes are not there. Code
that keeps to its own scopes cannot tell the two apart; the tasks that run below may differ in what is
saved in them, which nobody looks at before they go on. -/

namespace CooperativeTasks

structure Veil where
  /-- The covered scopes as the step has found them, innermost first. -/
  scopes : List Scope
  /-- The tasks that were running then. -/
  running : List TaskId
  /-- Those of them that count as running where the scopes are not there. -/
  marked : List TaskId
  /-- Scopes to which some task is still to report. -/
  awaits : ScopeId → Prop
  /-- How many scopes there are above the covered ones. -/
  height : Nat := 0
  /-- The tasks whose steps have begun since, innermost first. -/
  begun : List TaskId := []

def Veil.ids (veil : Veil) : List (Option ScopeId) := veil.scopes.map Scope.id

/-- The covered scopes later on: as they were, apart from what tasks report to them. -/
structure Veil.Hides (veil : Veil) (hidden : List Scope) : Prop where
  ids : hidden.map Scope.id = veil.ids
  kept : ∀ (index : Nat) (scope : Scope), veil.scopes[index]? = some scope →
    (∀ id, scope.id = some id → ¬ veil.awaits id) → hidden[index]? = some scope

theorem Veil.Hides.length {veil : Veil} {hidden : List Scope} (hides : veil.Hides hidden) :
    hidden.length = veil.scopes.length := by
  have counted := congrArg List.length hides.ids
  simpa [Veil.ids] using counted

/-- Two stacks, the second without the covered scopes. -/
structure Veil.Covers (veil : Veil) (first second : ScopeStack) : Prop where
  split : ∃ hidden, first.inner = second.inner ++ hidden ∧ veil.Hides hidden
  height : second.inner.length = veil.height
  global : second.global = first.global
  nextId : second.nextId = first.nextId
  known : ∀ identity ∈ veil.ids, ∃ id, identity = some id ∧ id.number < first.nextId
  apart : ∀ identity ∈ second.identities, identity ∉ veil.ids

/-! ### Searching scopes -/

namespace ScopeStack

theorem lookup?_eq_find? (name : String) (stack : ScopeStack) :
    stack.lookup? name = (stack.frames.find? (Scope.contains name)).bind (Scope.get? name) := by
  unfold lookup?
  induction stack.frames with
  | nil => rfl
  | cons scope rest ih =>
      have bound : scope.contains name = (scope.get? name).isSome := rfl
      cases held : scope.get? name with
      | none => simp [bound, held, ih]
      | some value => simp [bound, held]

theorem getElem?_modifyFirstIn? {test : Scope → Bool} {change : Scope → Scope}
    {scopes changed : List Scope} (modified : modifyFirstIn? test change scopes = some changed)
    {index : Nat} {scope : Scope} (found : scopes[index]? = some scope) (spared : test scope = false) :
    changed[index]? = some scope := by
  induction scopes generalizing changed index with
  | nil => cases modified
  | cons first rest ih =>
      unfold modifyFirstIn? at modified
      by_cases here : test first = true
      · rw [if_pos here] at modified
        cases modified
        cases index with
        | zero =>
            cases found
            rw [here] at spared
            cases spared
        | succ index => exact found
      · rw [if_neg here] at modified
        obtain ⟨tail, later, rfl⟩ := Option.map_eq_some_iff.mp modified
        cases index with
        | zero => exact found
        | succ index => exact ih later found

theorem passesOver_append {own hidden : List Scope} {stack : ScopeStack}
    (split : stack.inner = own ++ hidden) (name : String) :
    stack.passesOver hidden.length name =
      (own.any (Scope.contains name) || !hidden.any (Scope.contains name)) := by
  unfold passesOver
  simp [split]

theorem passesOver_congr {first second : ScopeStack} {name : String}
    (same : second.inner.map (Scope.contains name) = first.inner.map (Scope.contains name))
    (covered : Nat) : second.passesOver covered name = first.passesOver covered name := by
  have lengths : second.inner.length = first.inner.length := by
    simpa using congrArg List.length same
  have bound (scopes : List Scope) :
      scopes.any (Scope.contains name) = (scopes.map (Scope.contains name)).any fun held => held := by
    rw [List.any_map]
    rfl
  unfold passesOver
  dsimp only
  rw [bound, bound, bound, bound, List.map_take, List.map_drop, List.map_take, List.map_drop, same,
    lengths]

theorem passesOver_assignExisting (covered : Nat) (name other : String) (value : Value)
    (stack : ScopeStack) :
    (stack.assignExisting name value).passesOver covered other = stack.passesOver covered other := by
  have kept (scope : Scope) : (scope.assignExisting name value).contains other = scope.contains other :=
    Bindings.contains_replace name other value scope.bindings
  have listed {scopes changed : List Scope}
      (modified : modifyFirstIn? (Scope.contains name) (Scope.assignExisting name value) scopes =
        some changed) :
      changed.map (Scope.contains other) = scopes.map (Scope.contains other) := by
    induction scopes generalizing changed with
    | nil => cases modified
    | cons scope rest ih =>
        unfold modifyFirstIn? at modified
        split at modified
        · cases modified
          simp [kept]
        · obtain ⟨tail, later, rfl⟩ := Option.map_eq_some_iff.mp modified
          simp [ih later]
  refine passesOver_congr ?_ covered
  unfold assignExisting assign? modifyFirst?
  split
  · rename_i inner modified
    exact listed modified
  · split <;> rfl

theorem at?_innermost (stack : ScopeStack) : stack.at? stack.inner.length = some stack.current := by
  unfold at? frames current
  cases stack.inner with
  | nil => rfl
  | cons scope rest =>
      rw [List.cons_append, List.reverse_cons, List.getElem?_append_right (by simp)]
      simp

/-- Overwrites the entries beside a variable that hold its fields. -/
def assignMembers (base : String) (members : List (String × Value)) (stack : ScopeStack) : ScopeStack :=
  members.foldl
    (fun written (name, value) => written.assignExisting (memberName base name) value) stack

theorem passesOver_assignMembers (covered : Nat) (base other : String)
    (members : List (String × Value)) (stack : ScopeStack) :
    (stack.assignMembers base members).passesOver covered other = stack.passesOver covered other := by
  induction members generalizing stack with
  | nil => rfl
  | cons member rest ih => exact (ih _).trans (passesOver_assignExisting covered _ other _ stack)

end ScopeStack

namespace Veil.Covers

variable {veil : Veil} {first second : ScopeStack}

/-- A search that is over above the covered scopes, or finds nothing in them. -/
def Misses (test : Scope → Bool) (first second : ScopeStack) : Prop :=
  ∀ hidden, first.inner = second.inner ++ hidden →
    second.inner.any test = true ∨ hidden.any test = false

theorem misses_of_passesOver (covers : veil.Covers first second) {name : String}
    (passes : first.passesOver veil.scopes.length name = true) :
    Misses (Scope.contains name) first second := by
  intro hidden split
  obtain ⟨hidden', split', hides⟩ := covers.split
  have same : hidden' = hidden := List.append_cancel_left (split'.symm.trans split)
  subst hidden'
  rw [← hides.length, ScopeStack.passesOver_append split] at passes
  simpa using passes

theorem misses_of_apart (covers : veil.Covers first second) {id : ScopeId}
    (apart : some id ∉ veil.ids) : Misses (Scope.holds id) first second := by
  intro hidden split
  obtain ⟨hidden', split', hides⟩ := covers.split
  have same : hidden' = hidden := List.append_cancel_left (split'.symm.trans split)
  subst hidden'
  refine .inr (List.any_eq_false.mpr fun scope member holds => apart ?_)
  rw [← hides.ids]
  exact List.mem_map.mpr ⟨scope, member, by simpa [Scope.holds] using holds⟩

theorem find? (covers : veil.Covers first second) {test : Scope → Bool}
    (misses : Misses test first second) : second.frames.find? test = first.frames.find? test := by
  obtain ⟨hidden, split, _⟩ := covers.split
  unfold ScopeStack.frames
  rw [split, covers.global, List.find?_append, List.find?_append, List.find?_append]
  rcases misses hidden split with above | below
  · obtain ⟨scope, member, passes⟩ := List.any_eq_true.mp above
    cases found : second.inner.find? test with
    | some scope => rfl
    | none => exact absurd passes (List.find?_eq_none.mp found scope member)
  · rw [List.find?_eq_none.mpr (List.any_eq_false.mp below), Option.or_none]

theorem above (covers : veil.Covers first second) {hidden own : List Scope}
    (split : first.inner = second.inner ++ hidden)
    (same : own.map Scope.id = second.inner.map Scope.id) :
    veil.Covers { first with inner := own ++ hidden } { second with inner := own } := by
  obtain ⟨hidden', split', hides⟩ := covers.split
  have equal : hidden' = hidden := List.append_cancel_left (split'.symm.trans split)
  subst hidden'
  refine { covers with split := ⟨hidden, rfl, hides⟩, height := ?_, apart := ?_ }
  · have counted := congrArg List.length same
    rw [List.length_map, List.length_map] at counted
    exact counted.trans covers.height
  · intro identity member
    rw [ScopeStack.identities_eq, same, ← ScopeStack.identities_eq second] at member
    exact covers.apart identity member

theorem onGlobal (covers : veil.Covers first second) {change : Scope → Scope}
    (keeps : ∀ scope, (change scope).id = scope.id) :
    veil.Covers { first with global := change first.global }
      { second with global := change second.global } := by
  refine { covers with global := congrArg change covers.global, apart := ?_ }
  intro identity member
  rw [ScopeStack.identities_eq, keeps, ← ScopeStack.identities_eq second] at member
  exact covers.apart identity member

theorem modifyFirst? (covers : veil.Covers first second) {test : Scope → Bool}
    {change : Scope → Scope} (keeps : ∀ scope, (change scope).id = scope.id)
    (misses : Misses test first second) :
    (first.modifyFirst? test change = none ∧ second.modifyFirst? test change = none) ∨
      ∃ changed changed', first.modifyFirst? test change = some changed ∧
        second.modifyFirst? test change = some changed' ∧ veil.Covers changed changed' := by
  obtain ⟨hidden, split, _⟩ := covers.split
  have searched := congrArg (ScopeStack.modifyFirstIn? test change) split
  rw [ScopeStack.modifyFirstIn?_append] at searched
  unfold ScopeStack.modifyFirst?
  rw [searched]
  cases own : ScopeStack.modifyFirstIn? test change second.inner with
  | some changed =>
      refine .inr ⟨_, _, rfl, rfl, ?_⟩
      exact covers.above split (ScopeStack.identities_modifyFirstIn? keeps own)
  | none =>
      have above : second.inner.any test = false :=
        List.any_eq_false.mpr (List.find?_eq_none.mp (ScopeStack.modifyFirstIn?_eq_none.mp own))
      have below : hidden.any test = false := by
        rcases misses hidden split with impossible | below
        · rw [above] at impossible
          cases impossible
        · exact below
      rw [ScopeStack.modifyFirstIn?_eq_none.mpr
        (List.find?_eq_none.mpr (List.any_eq_false.mp below)), covers.global]
      cases passes : test first.global with
      | false => exact .inl ⟨rfl, rfl⟩
      | true =>
          refine .inr ⟨_, _, rfl, rfl, ?_⟩
          have whole := covers.onGlobal keeps
          rw [covers.global] at whole
          exact whole

theorem modifyFrame?_hidden (covers : veil.Covers first second) {id : ScopeId}
    {change : Scope → Scope} (keeps : ∀ scope, (change scope).id = scope.id)
    (member : some id ∈ veil.ids) (awaited : veil.awaits id) :
    second.modifyFrame? id change = none ∧
      ∃ changed, first.modifyFrame? id change = some changed ∧ veil.Covers changed second := by
  have absent : second.frame? id = none := by
    refine List.find?_eq_none.mpr fun scope here holds => ?_
    refine covers.apart (some id) ?_ member
    exact List.mem_map.mpr ⟨scope, here, by simpa [Scope.holds] using holds⟩
  refine ⟨ScopeStack.modifyFrame?_eq_none.mpr absent, ?_⟩
  obtain ⟨hidden, split, hides⟩ := covers.split
  have own : ScopeStack.modifyFirstIn? (Scope.holds id) change second.inner = none := by
    refine ScopeStack.modifyFirstIn?_eq_none.mpr (List.find?_eq_none.mpr fun scope here => ?_)
    exact List.find?_eq_none.mp absent scope (List.mem_append_left _ here)
  rw [← hides.ids] at member
  obtain ⟨scope, here, identity⟩ := List.mem_map.mp member
  cases modified : ScopeStack.modifyFirstIn? (Scope.holds id) change hidden with
  | none =>
      have nowhere := List.find?_eq_none.mp (ScopeStack.modifyFirstIn?_eq_none.mp modified) scope here
      exact absurd (by simp [Scope.holds, identity]) nowhere
  | some changed =>
      refine ⟨{ first with inner := second.inner ++ changed }, ?_, ?_⟩
      · unfold ScopeStack.modifyFrame? ScopeStack.modifyFirst?
        rw [split, ScopeStack.modifyFirstIn?_append, own, modified]
        rfl
      · refine { covers with split := ⟨changed, rfl, ?_, fun index scope found spared => ?_⟩ }
        · exact (ScopeStack.identities_modifyFirstIn? keeps modified).trans hides.ids
        · refine ScopeStack.getElem?_modifyFirstIn? modified (hides.kept index scope found spared) ?_
          cases holds : scope.holds id with
          | false => rfl
          | true => exact absurd awaited (spared id (by simpa [Scope.holds] using holds))

/-! ### Names -/

section Names

variable (covers : veil.Covers first second) {name : String}

include covers

theorem lookup? (passes : first.passesOver veil.scopes.length name = true) :
    second.lookup? name = first.lookup? name := by
  rw [ScopeStack.lookup?_eq_find?, ScopeStack.lookup?_eq_find?,
    covers.find? (covers.misses_of_passesOver passes)]

theorem frameOf? (passes : first.passesOver veil.scopes.length name = true) :
    second.frameOf? name = first.frameOf? name := by
  unfold ScopeStack.frameOf?
  rw [covers.find? (covers.misses_of_passesOver passes)]

theorem frameOf?_apart (passes : first.passesOver veil.scopes.length name = true) {id : ScopeId}
    (found : first.frameOf? name = some id) : some id ∉ veil.ids := by
  rw [← covers.frameOf? passes] at found
  obtain ⟨scope, here, identity⟩ := Option.bind_eq_some_iff.mp found
  refine covers.apart (some id) (List.mem_map.mpr ⟨scope, List.mem_of_find?_eq_some here, identity⟩)

theorem readPlace (reads : first.readsOver veil.scopes.length name = true) :
    second.readPlace name = first.readPlace name := by
  obtain ⟨whole, rest⟩ := Bool.and_eq_true_iff.mp reads
  unfold ScopeStack.readPlace
  rw [covers.lookup? whole]
  cases bound : first.lookup? name with
  | some value => rfl
  | none =>
      rw [bound] at rest
      dsimp only
      rw [covers.lookup? rest]

theorem assign? (passes : first.passesOver veil.scopes.length name = true) (value : Value) :
    (first.assign? name value = none ∧ second.assign? name value = none) ∨
      ∃ changed changed', first.assign? name value = some changed ∧
        second.assign? name value = some changed' ∧ veil.Covers changed changed' :=
  covers.modifyFirst? (Scope.assignExisting_id name value) (covers.misses_of_passesOver passes)

theorem assignExisting (passes : first.passesOver veil.scopes.length name = true) (value : Value) :
    veil.Covers (first.assignExisting name value) (second.assignExisting name value) := by
  unfold ScopeStack.assignExisting
  rcases covers.assign? passes value with ⟨here, there⟩ | ⟨changed, changed', here, there, after⟩
  · rw [here, there]
    exact covers
  · rw [here, there]
    exact after

theorem writePlace (writes : first.writesOver veil.scopes.length name = true) (value : Value) :
    (second.writePlace name value).2 = (first.writePlace name value).2 ∧
      veil.Covers (first.writePlace name value).1 (second.writePlace name value).1 := by
  obtain ⟨whole, rest⟩ := Bool.and_eq_true_iff.mp writes
  have written := covers.assignExisting whole value
  have bound : (second.assign? name value).isSome = (first.assign? name value).isSome := by
    rcases covers.assign? whole value with ⟨here, there⟩ | ⟨_, _, here, there, _⟩
    · rw [here, there]
    · rw [here, there, Option.isSome_some, Option.isSome_some]
  rw [ScopeStack.writePlace_eq, ScopeStack.writePlace_eq]
  dsimp only
  rw [bound]
  cases path : (Place.ofName name).path with
  | nil => exact ⟨rfl, written⟩
  | cons field path' =>
      rw [path] at rest
      have base : (first.assignExisting name value).passesOver veil.scopes.length
          (Place.ofName name).base = true := by
        rw [ScopeStack.passesOver_assignExisting]
        exact rest
      dsimp only
      rw [written.lookup? base]
      cases (first.assignExisting name value).lookup? (Place.ofName name).base with
      | none => exact ⟨rfl, written⟩
      | some slot =>
          dsimp only
          cases slot.write (field :: path') value with
          | ok updated => exact ⟨rfl, written.assignExisting base updated⟩
          | error fault => exact ⟨rfl, written⟩

end Names

theorem members (covers : veil.Covers first second) (base : String)
    {members : List (String × Value)}
    (passes : ∀ member ∈ members,
      first.passesOver veil.scopes.length (memberName base member.1) = true) :
    veil.Covers (first.assignMembers base members) (second.assignMembers base members) := by
  induction members generalizing first second with
  | nil => exact covers
  | cons member rest ih =>
      refine ih (covers.assignExisting (passes member List.mem_cons_self) member.2) ?_
      intro later listed
      rw [ScopeStack.passesOver_assignExisting]
      exact passes later (List.mem_cons_of_mem member listed)

theorem putInstance (covers : veil.Covers first second) {receiver : String} {updated : Value}
    (puts : first.putsOver veil.scopes.length receiver updated = true) :
    let written (stack : ScopeStack) :=
      (stack.assignMembers receiver (updated.fields?.getD [])).writePlace receiver updated
    (written second).2 = (written first).2 ∧ veil.Covers (written first).1 (written second).1 := by
  obtain ⟨beside, whole⟩ := Bool.and_eq_true_iff.mp puts
  refine (covers.members receiver fun member listed => ?_).writePlace ?_ updated
  · exact List.all_eq_true.mp beside member listed
  · unfold ScopeStack.writesOver at whole ⊢
    rw [ScopeStack.passesOver_assignMembers, ScopeStack.passesOver_assignMembers]
    exact whole

/-! ### The innermost scope -/

theorem depths (covers : veil.Covers first second) :
    first.inner.length = veil.height + veil.scopes.length ∧ second.inner.length = veil.height := by
  obtain ⟨hidden, split, hides⟩ := covers.split
  refine ⟨?_, covers.height⟩
  rw [split, List.length_append, covers.height, hides.length]

section Innermost

variable (covers : veil.Covers first second) (inside : 0 < veil.height)

include covers inside

theorem innermost : ∃ scope above below, second.inner = scope :: above ∧ first.inner = scope :: below := by
  obtain ⟨hidden, split, _⟩ := covers.split
  cases own : second.inner with
  | nil =>
      have none := covers.height
      rw [own] at none
      exact absurd none (Nat.ne_of_lt inside)
  | cons scope above =>
      rw [own] at split
      exact ⟨scope, above, above ++ hidden, rfl, split⟩

theorem current : second.current = first.current := by
  obtain ⟨scope, above, below, here, there⟩ := covers.innermost inside
  unfold ScopeStack.current
  rw [here, there]
  rfl

theorem current_apart : first.current.id ∉ veil.ids := by
  obtain ⟨scope, above, below, here, there⟩ := covers.innermost inside
  refine covers.apart _ ?_
  unfold ScopeStack.current
  rw [there, ScopeStack.identities_eq, here]
  exact List.mem_cons_self

theorem modifyCurrent {change : Scope → Scope} (keeps : ∀ scope, (change scope).id = scope.id) :
    veil.Covers (first.modifyCurrent change) (second.modifyCurrent change) := by
  obtain ⟨hidden, split, _⟩ := covers.split
  obtain ⟨scope, above, below, here, there⟩ := covers.innermost inside
  have rest : below = above ++ hidden := by
    rw [here, there] at split
    exact List.tail_eq_of_cons_eq split
  unfold ScopeStack.modifyCurrent
  rw [here, there, rest]
  have same : (change scope :: above).map Scope.id = second.inner.map Scope.id := by
    rw [here, List.map_cons, List.map_cons, keeps]
  exact covers.above split same

end Innermost

theorem begun (covers : veil.Covers first second) (tasks : List TaskId) :
    { veil with begun := tasks }.Covers first second := by
  obtain ⟨hidden, split, hides⟩ := covers.split
  exact { covers with split := ⟨hidden, split, hides.ids, hides.kept⟩ }

theorem push (covers : veil.Covers first second) {scope : Scope}
    (apart : ∀ id, scope.id = some id → some id ∉ veil.ids) :
    { veil with height := veil.height + 1 }.Covers (first.push scope) (second.push scope) := by
  obtain ⟨hidden, split, hides⟩ := covers.split
  have whole {named : Scope} (fresh : named.id ∉ veil.ids) {next : Nat} (later : first.nextId ≤ next) :
      { veil with height := veil.height + 1 }.Covers
        ⟨first.global, named :: first.inner, next⟩ ⟨second.global, named :: second.inner, next⟩ := by
    refine ⟨⟨hidden, congrArg (named :: ·) split, hides.ids, hides.kept⟩, ?_, covers.global, rfl, ?_, ?_⟩
    · exact congrArg (· + 1) covers.height
    · intro identity member
      obtain ⟨id, same, below⟩ := covers.known identity member
      exact ⟨id, same, Nat.lt_of_lt_of_le below later⟩
    · intro identity member
      rcases List.mem_cons.mp member with rfl | older
      · exact fresh
      · exact covers.apart identity older
  unfold ScopeStack.push
  cases identity : scope.id with
  | some id =>
      have fresh : scope.id ∉ veil.ids := by
        rw [identity]
        exact apart id identity
      simp only [covers.nextId]
      exact whole fresh (Nat.le_refl first.nextId)
  | none =>
      have fresh : some ⟨first.nextId⟩ ∉ veil.ids := by
        intro member
        obtain ⟨id, same, below⟩ := covers.known _ member
        cases same
        exact Nat.lt_irrefl _ below
      simp only [covers.nextId]
      exact whole fresh (Nat.le_succ first.nextId)

theorem pop {left left' : ScopeStack} (covers : veil.Covers first second)
    (above : { veil with height := veil.height + 1 }.Covers left left') :
    veil.Covers (left.truncate first.depth) (left'.truncate second.depth) := by
  obtain ⟨hidden, split, hides⟩ := above.split
  obtain ⟨scope, rest, below, here, there⟩ := above.innermost (Nat.succ_pos _)
  have lower : below = rest ++ hidden := by
    rw [here, there] at split
    exact List.tail_eq_of_cons_eq split
  have depths := covers.depths
  have depths' := above.depths
  have taken : left.truncate first.depth = { left with inner := below } := by
    unfold ScopeStack.truncate ScopeStack.depth
    have one : left.inner.length - (first.inner.length + 1 - 1) = 1 := by
      have := depths'.1
      dsimp only at this
      omega
    rw [one, there]
    rfl
  have taken' : left'.truncate second.depth = { left' with inner := rest } := by
    unfold ScopeStack.truncate ScopeStack.depth
    have one : left'.inner.length - (second.inner.length + 1 - 1) = 1 := by
      have := depths'.2
      dsimp only at this
      omega
    rw [one, here]
    rfl
  rw [taken, taken']
  refine ⟨⟨hidden, lower, hides.ids, hides.kept⟩, ?_, above.global, above.nextId, above.known, ?_⟩
  · have height := above.height
    rw [here] at height
    exact Nat.succ.inj height
  · intro identity member
    refine above.apart identity ?_
    rw [ScopeStack.identities_eq] at member ⊢
    rw [here]
    exact List.mem_cons_of_mem _ member

end Veil.Covers

end CooperativeTasks
