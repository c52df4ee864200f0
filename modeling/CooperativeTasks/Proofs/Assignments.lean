import CooperativeTasks.Proofs.Places
import Mathlib.Data.List.TakeWhile

set_option autoImplicit false

/-! Assigning to a place and looking it up.

The value of a place stands in an entry of its own, at the end of a path inside the variable at its
base, or in both, and each of the two may be bound in any scope. An assignment reaches every spot
that a look-up may find first, so what has been assigned is what is read. It binds and unbinds
nothing, and names with another first segment read as before. -/

namespace CooperativeTasks

/-! ### First segments -/

/-- A name up to its first dot. -/
def firstSegment (name : String) : List Char := name.toList.takeWhile (· ≠ '.')

theorem head?_splitDots (letters : List Char) :
    (splitDots letters).head? = some (letters.takeWhile (· ≠ '.')) := by
  induction letters with
  | nil => rfl
  | cons letter rest ih =>
      obtain ⟨first, others, parts⟩ := List.exists_cons_of_ne_nil (splitDots_ne_nil rest)
      rw [parts, List.head?_cons, Option.some.injEq] at ih
      by_cases dot : letter = '.'
      · simp [splitDots, dot]
      · simp [splitDots, dot, parts, ih]

namespace Place

theorem toList_base (name : String) : (ofName name).base.toList = firstSegment name := by
  have head := head?_splitDots name.toList
  unfold ofName
  cases parts : splitDots name.toList with
  | nil => exact absurd parts (splitDots_ne_nil _)
  | cons base path =>
      rw [parts, List.head?_cons, Option.some.injEq] at head
      rw [head]
      exact String.toList_ofList

theorem firstSegment_base (name : String) :
    firstSegment (ofName name).base = firstSegment name := by
  rw [firstSegment, toList_base]
  exact List.takeWhile_idem

theorem base_ne {name : String} (deep : (ofName name).path ≠ []) : name ≠ (ofName name).base := by
  intro same
  have whole : '.' ∉ (ofName name).base.toList := by
    rw [toList_base]
    intro dot
    have other := List.mem_takeWhile_imp dot
    simp at other
  rw [← same] at whole
  rw [ofName_of_not_mem whole] at deep
  exact deep rfl

end Place

namespace ScopeStack

/-! ### What an assignment leaves -/

/-- A change that a view of a scope does not show is not shown by the views of all scopes. -/
theorem map_modifyFirst? {β : Type} {view : Scope → β} {test : Scope → Bool}
    {change : Scope → Scope} (keeps : ∀ scope, view (change scope) = view scope)
    {stack changed : ScopeStack} (found : stack.modifyFirst? test change = some changed) :
    changed.frames.map view = stack.frames.map view := by
  have listed {scopes after : List Scope}
      (modified : modifyFirstIn? test change scopes = some after) :
      after.map view = scopes.map view := by
    induction scopes generalizing after with
    | nil => cases modified
    | cons scope rest ih =>
        unfold modifyFirstIn? at modified
        split at modified
        · cases modified
          simp [keeps]
        · obtain ⟨tail, later, rfl⟩ := Option.map_eq_some_iff.mp modified
          simp [ih later]
  apply listed
  rw [← frames_modifyFirst?, found]
  rfl

theorem outlines_assignExisting (name : String) (value : Value) (stack : ScopeStack) :
    (stack.assignExisting name value).frames.map Scope.outline =
      stack.frames.map Scope.outline := by
  unfold assignExisting
  cases found : stack.assign? name value with
  | none => rfl
  | some changed => exact map_modifyFirst? (Scope.outline_assignExisting name value) found

/-- Writing to a place, with success or without, neither binds nor unbinds a name, in no scope. -/
theorem outlines_writePlace (target : String) (value : Value) (stack : ScopeStack) :
    (stack.writePlace target value).1.frames.map Scope.outline =
      stack.frames.map Scope.outline := by
  have flattened := stack.outlines_assignExisting target value
  rw [writePlace_eq]
  dsimp only
  split
  · exact flattened
  · split
    · exact flattened
    · split
      · exact (outlines_assignExisting _ _ _).trans flattened
      · exact flattened

theorem lookup?_writePlace_of_ne {target other : String} (entry : target ≠ other)
    (base : (Place.ofName target).base ≠ other) (value : Value) (stack : ScopeStack) :
    (stack.writePlace target value).1.lookup? other = stack.lookup? other := by
  have flattened : (stack.assignExisting target value).lookup? other = stack.lookup? other := by
    simp [lookup?_assignExisting, entry]
  rw [writePlace_eq]
  dsimp only
  split
  · exact flattened
  · split
    · exact flattened
    · split
      · rw [lookup?_assignExisting, flattened]
        simp [base]
      · exact flattened

section Reading

variable {stack : ScopeStack} {target : String} {value : Value}

theorem lookup?_assignExisting_self {old : Value} (bound : stack.lookup? target = some old) :
    (stack.assignExisting target value).lookup? target = some value := by
  simp [lookup?_assignExisting, bound]

/-- With an entry for the whole name, that is what is read. Without one the path is followed. -/
theorem readPlace_assignBase {field : String} {rest : List String} {base updated : Value}
    (path : (Place.ofName target).path = field :: rest)
    (found : (stack.assignExisting target value).lookup? (Place.ofName target).base = some base)
    (written : base.write (field :: rest) value = .ok updated) :
    ((stack.assignExisting target value).assignExisting (Place.ofName target).base
      updated).readPlace target = .ok value := by
  have apart : (Place.ofName target).base ≠ target := (Place.base_ne (by simp [path])).symm
  cases entry : stack.lookup? target with
  | some old =>
      apply readPlace_of_bound
      rw [lookup?_assignExisting, lookup?_assignExisting_self entry]
      simp [apart]
  | none =>
      have unbound : ((stack.assignExisting target value).assignExisting
          (Place.ofName target).base updated).lookup? target = none := by
        simp [lookup?_assignExisting, entry]
      have place : Place.ofName target = ⟨(Place.ofName target).base, field :: rest⟩ := by
        rw [← path]
      rw [readPlace_of_path unbound place (lookup?_assignExisting_self found),
        Value.read?_of_write written]
      rfl

theorem readPlace_writePlace {after : ScopeStack}
    (assigned : stack.writePlace target value = (after, .ok ())) :
    after.readPlace target = .ok value := by
  -- Without a base to write to, the entry for the whole name is what has been assigned to.
  have alone {cause : Fault}
      (ended : (if (stack.lookup? target).isSome = true then .ok () else .error cause) =
        (.ok () : Except Fault Unit)) :
      (stack.assignExisting target value).readPlace target = .ok value := by
    cases bound : stack.lookup? target with
    | none =>
        rw [bound] at ended
        cases ended
    | some old => exact readPlace_of_bound (lookup?_assignExisting_self bound)
  rw [writePlace_eq, isSome_assign?_eq] at assigned
  dsimp only at assigned
  cases path : (Place.ofName target).path with
  | nil =>
      rw [path] at assigned
      obtain ⟨rfl, ended⟩ := Prod.mk.inj assigned
      exact alone ended
  | cons field rest =>
      rw [path] at assigned
      dsimp only at assigned
      cases found : (stack.assignExisting target value).lookup? (Place.ofName target).base with
      | none =>
          rw [found] at assigned
          obtain ⟨rfl, ended⟩ := Prod.mk.inj assigned
          exact alone ended
      | some base =>
          rw [found] at assigned
          dsimp only at assigned
          cases written : base.write (field :: rest) value with
          | error fault =>
              rw [written] at assigned
              cases assigned
          | ok updated =>
              rw [written] at assigned
              obtain ⟨rfl, _⟩ := Prod.mk.inj assigned
              exact readPlace_assignBase path found written

end Reading

theorem readPlace_writePlace_of_ne {target other : String}
    (apart : firstSegment other ≠ firstSegment target) (value : Value) (stack : ScopeStack) :
    (stack.writePlace target value).1.readPlace other = stack.readPlace other := by
  have untouched {name : String} (same : firstSegment name = firstSegment other) :
      (stack.writePlace target value).1.lookup? name = stack.lookup? name := by
    apply lookup?_writePlace_of_ne
    · rintro rfl
      exact apart same.symm
    · rintro rfl
      exact apart (same.symm.trans (Place.firstSegment_base target))
  unfold readPlace
  simp only [untouched rfl, untouched (Place.firstSegment_base other)]

end ScopeStack

/-- What is assigned to a place is what the place reads as afterwards, wherever its entry and its
base are bound and whichever of the two there are. Whether the assignment succeeds or not, no scope
gains or loses a name, nor do names change their order, and names with another first segment read as
before. -/
theorem assigned_place_reads_back (stack : ScopeStack) (target : String) (value : Value) :
    let after := (stack.writePlace target value).1
    ((stack.writePlace target value).2 = .ok () → after.readPlace target = .ok value) ∧
      after.frames.map Scope.outline = stack.frames.map Scope.outline ∧
      ∀ other, firstSegment other ≠ firstSegment target →
        after.readPlace other = stack.readPlace other := by
  refine ⟨fun ended => ?_, stack.outlines_writePlace target value, fun other apart => ?_⟩
  · exact ScopeStack.readPlace_writePlace (Prod.ext rfl ended)
  · exact stack.readPlace_writePlace_of_ne apart value

/-- The place `o.inner.v` has an entry in the innermost scope, and one in the next, beside an `o`
that hides the global one. -/
def shadowing : ScopeStack :=
  let inner (value : Int64) := Value.struct "Inner" [("v", .int value)]
  { global :=
      { id := some ⟨0⟩, bindings := [("o", .struct "Outer" [("inner", inner 1)]), ("p", inner 7)] }
    inner := [{ id := some ⟨2⟩, bindings := [("o.inner.v", .int 3)] },
      { id := some ⟨1⟩
        bindings := [("o", .struct "Outer" [("inner", inner 2)]), ("o.inner.v", .int 4)] }]
    nextId := 3 }

theorem assigned_place_reads_back_shadowing :
    ∃ after, shadowing.writePlace "o.inner.v" (.int 5) = (after, .ok ()) ∧
      after.readPlace "o.inner.v" = .ok (.int 5) ∧
      after.frames.map Scope.outline = shadowing.frames.map Scope.outline ∧
      firstSegment "p.v" ≠ firstSegment "o.inner.v" ∧
      after.readPlace "p.v" = shadowing.readPlace "p.v" := by
  obtain ⟨reads, names, others⟩ := assigned_place_reads_back shadowing "o.inner.v" (.int 5)
  have apart : firstSegment "p.v" ≠ firstSegment "o.inner.v" := by decide
  exact ⟨_, rfl, reads rfl, names, apart, others "p.v" apart⟩

end CooperativeTasks
