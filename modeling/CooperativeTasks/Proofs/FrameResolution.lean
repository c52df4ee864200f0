import CooperativeTasks.Proofs.Assignments

set_option autoImplicit false

/-! Resolution by name and resolution by identity.

A stack is searched innermost first, for a name or for the identity of a scope. As long as no two
scopes share an identity, the scope that is found by a name is found again by its identity, and
both searches stop at the same index. Reading and writing through either of them is then one. -/

namespace CooperativeTasks

theorem Bindings.getElem?_replace_of_ne {κ α : Type} [DecidableEq κ] {key other : κ}
    (different : other ≠ key) (value old : α) (entries : List (κ × α)) (position : Nat) :
    (replace key value entries)[position]? = some (other, old) ↔
      entries[position]? = some (other, old) := by
  induction entries generalizing position with
  | nil => exact Iff.rfl
  | cons entry rest ih =>
      by_cases here : entry.1 = key
      · cases position with
        | zero =>
            have replaced : (key, value) ≠ (other, old) := fun same =>
              different (congrArg Prod.fst same).symm
            have present : entry ≠ (other, old) := fun same =>
              different ((congrArg Prod.fst same).symm.trans here)
            simp [replace, here, replaced, present]
        | succ position => simp [replace, here]
      · cases position with
        | zero => simp [replace, here, Prod.ext_iff]
        | succ position => simpa [replace, here] using ih position

namespace Scope

/-- Two states of a scope that differ in the value of one name at most: identity, names and their
order are the same, and so is the entry at every position that is not of that name. -/
structure DiffersAt (name : String) (before after : Scope) : Prop where
  id : after.id = before.id
  names : after.bindings.map Prod.fst = before.bindings.map Prod.fst
  others : ∀ (position : Nat) (other : String) (value : Value), other ≠ name →
    (after.bindings[position]? = some (other, value) ↔
      before.bindings[position]? = some (other, value))

theorem differsAt_assignExisting (name : String) (value : Value) (scope : Scope) :
    DiffersAt name scope (scope.assignExisting name value) where
  id := rfl
  names := Bindings.keys_replace name value scope.bindings
  others := fun position _ old different =>
    Bindings.getElem?_replace_of_ne different value old scope.bindings position

end Scope

namespace ScopeStack

/-! ### Two searches that stop at the same scope -/

theorem findIdx?_holds {id : ScopeId} {scopes : List Scope} {index : Nat} {scope : Scope}
    (distinct : (scopes.map Scope.id).Nodup) (found : scopes[index]? = some scope)
    (known : scope.id = some id) : scopes.findIdx? (Scope.holds id) = some index := by
  rw [List.findIdx?_eq_some_iff_getElem]
  obtain ⟨inside, rfl⟩ := List.getElem?_eq_some_iff.mp found
  refine ⟨inside, by simp [Scope.holds, known], fun earlier before => ?_⟩
  intro holding
  refine List.pairwise_iff_getElem.mp distinct earlier index (by simpa using before.trans inside)
    (by simpa using inside) before ?_
  rw [List.getElem_map, List.getElem_map, known]
  simpa [Scope.holds] using holding

theorem eq_of_frames {first second : ScopeStack} (frames : first.frames = second.frames)
    (nextId : first.nextId = second.nextId) : first = second := by
  obtain ⟨firstGlobal, firstInner, firstNext⟩ := first
  obtain ⟨secondGlobal, secondInner, secondNext⟩ := second
  obtain ⟨inner, global⟩ := List.append_inj' frames rfl
  simp_all

theorem modifyFirst?_congr {first second : Scope → Bool} {stack : ScopeStack}
    (same : stack.frames.findIdx? first = stack.frames.findIdx? second)
    (change : Scope → Scope) :
    stack.modifyFirst? first change = stack.modifyFirst? second change := by
  have listed : (stack.modifyFirst? first change).map frames =
      (stack.modifyFirst? second change).map frames := by
    rw [frames_modifyFirst?, frames_modifyFirst?, modifyFirstIn?_eq, modifyFirstIn?_eq, same]
  cases one : stack.modifyFirst? first change with
  | none =>
      rw [one, Option.map_none] at listed
      exact (Option.map_eq_none_iff.mp listed.symm).symm
  | some left =>
      rw [one, Option.map_some] at listed
      obtain ⟨right, two, scopes⟩ := Option.map_eq_some_iff.mp listed.symm
      rw [two, eq_of_frames scopes ((nextId_modifyFirst? two).trans (nextId_modifyFirst? one).symm)]

theorem frames_assign? {name : String} {value : Value} {stack after : ScopeStack} {index : Nat}
    (found : stack.frames.findIdx? (Scope.contains name) = some index)
    (assigned : stack.assign? name value = some after) :
    after.frames = stack.frames.modify index (Scope.assignExisting name value) := by
  have listed := stack.frames_modifyFirst? (Scope.contains name) (Scope.assignExisting name value)
  rw [modifyFirstIn?_eq, found] at listed
  unfold assign? at assigned
  rw [assigned] at listed
  exact Option.some.inj listed

section Distinct

variable {stack : ScopeStack} (identified : ∀ frame ∈ stack.frames, frame.id.isSome = true)
  (distinct : stack.identities.Nodup)

include identified in
theorem frameOf?_cases (name : String) :
    (stack.frames.findIdx? (Scope.contains name) = none ∧ stack.frameOf? name = none) ∨
      ∃ index frame id, stack.frames.findIdx? (Scope.contains name) = some index ∧
        stack.frames[index]? = some frame ∧ frame.contains name = true ∧ frame.id = some id ∧
        stack.frameOf? name = some id := by
  unfold frameOf?
  rw [find?_eq_bind]
  cases found : stack.frames.findIdx? (Scope.contains name) with
  | none => exact .inl ⟨rfl, rfl⟩
  | some index =>
      obtain ⟨inside, binds, -⟩ := List.findIdx?_eq_some_iff_getElem.mp found
      obtain ⟨id, known⟩ := Option.isSome_iff_exists.mp
        (identified stack.frames[index] (List.getElem_mem inside))
      exact .inr ⟨index, stack.frames[index], id, rfl, List.getElem?_eq_getElem inside, binds,
        known, by simp [inside, known]⟩

include identified in
theorem frameOf?_eq_none_iff (name : String) :
    stack.frameOf? name = none ↔ stack.lookup? name = none := by
  rw [lookup?_eq_find?, find?_eq_bind]
  rcases frameOf?_cases identified name with ⟨absent, unresolved⟩ |
    ⟨index, frame, id, found, stands, binds, -, resolved⟩
  · rw [absent, unresolved]
    exact iff_of_true rfl rfl
  · obtain ⟨value, bound⟩ := Option.isSome_iff_exists.mp binds
    have read : frame.get? name = some value := bound
    simp [found, stands, resolved, read]

include identified distinct

/-- The search for a name and that for the identity it resolves to end at the same index. -/
theorem findIdx?_frameOf? (name : String) :
    stack.frames.findIdx? (Scope.contains name) =
      (stack.frameOf? name).bind fun id => stack.frames.findIdx? (Scope.holds id) := by
  rcases frameOf?_cases identified name with ⟨absent, unresolved⟩ |
    ⟨index, frame, id, found, stands, -, known, resolved⟩
  · rw [absent, unresolved]
    rfl
  · rw [found, resolved]
    exact (findIdx?_holds distinct stands known).symm

theorem find?_contains_eq (name : String) :
    stack.frames.find? (Scope.contains name) =
      (stack.frameOf? name).bind fun id => stack.frame? id := by
  rw [find?_eq_bind, findIdx?_frameOf? identified distinct, Option.bind_assoc]
  congr 1
  funext id
  exact (find?_eq_bind _ _).symm

theorem lookup?_eq_frame (name : String) :
    stack.lookup? name =
      ((stack.frameOf? name).bind fun id => stack.frame? id).bind (Scope.get? name) := by
  rw [← find?_contains_eq identified distinct, lookup?_eq_find?]

theorem assign?_eq_modifyFrame? (name : String) (value : Value) :
    stack.assign? name value =
      (stack.frameOf? name).bind fun id =>
        stack.modifyFrame? id (Scope.assignExisting name value) := by
  rcases frameOf?_cases identified name with ⟨absent, unresolved⟩ |
    ⟨index, frame, id, found, stands, -, known, resolved⟩
  · have unbound : stack.lookup? name = none := (frameOf?_eq_none_iff identified name).mp unresolved
    rw [unresolved, Option.bind_none, ← Option.not_isSome_iff_eq_none, isSome_assign?_eq, unbound]
    exact Bool.false_ne_true
  · rw [resolved, Option.bind_some]
    exact modifyFirst?_congr (found.trans (findIdx?_holds distinct stands known).symm) _

/-- An assignment changes the scope that the name resolves to, in that name only, and no other. -/
theorem differsAt_assign? {name : String} {value : Value} {after : ScopeStack}
    (assigned : stack.assign? name value = some after) {index : Nat} {before : Scope}
    (standing : stack.frames[index]? = some before) :
    ∃ later, after.frames[index]? = some later ∧
      (before.id ≠ stack.frameOf? name → later = before) ∧
      (before.id = stack.frameOf? name →
        later.get? name = some value ∧ Scope.DiffersAt name before later) := by
  rcases frameOf?_cases identified name with ⟨-, unresolved⟩ |
    ⟨place, frame, id, found, stands, binds, known, resolved⟩
  · rw [assign?_eq_modifyFrame? identified distinct, unresolved] at assigned
    cases assigned
  · have scopes := frames_assign? found assigned
    by_cases same : place = index
    · obtain rfl : frame = before := Option.some.inj (stands.symm.trans (same ▸ standing))
      have changed : after.frames[index]? = some (frame.assignExisting name value) := by
        simp [scopes, same, standing]
      refine ⟨_, changed, fun apart => absurd (known.trans resolved.symm) apart, fun _ => ⟨?_, ?_⟩⟩
      · obtain ⟨old, bound⟩ := Option.isSome_iff_exists.mp binds
        have read : frame.get? name = some old := bound
        simp [Scope.get?_assignExisting, read]
      · exact Scope.differsAt_assignExisting name value frame
    · have untouched : after.frames[index]? = some before := by
        simp [scopes, same, standing]
      refine ⟨before, untouched, fun _ => rfl, fun resolving => absurd ?_ same⟩
      -- distinct identities: the one that the name resolves to stands at a single index
      have first := findIdx?_holds distinct stands known
      rw [findIdx?_holds distinct standing (resolving.trans resolved)] at first
      exact (Option.some.inj first).symm

end Distinct

end ScopeStack

/-- What a name reads as is its binding in the scope that it resolves to by identity, and to assign
to the name is to assign to it in that scope. The assignment succeeds just if that scope is there
and has the name; it is read back, and leaves every other scope and every other entry of this one
as and where it was. -/
theorem names_and_identities_agree {stack : ScopeStack}
    (identified : ∀ frame ∈ stack.frames, frame.id.isSome = true)
    (distinct : stack.identities.Nodup) (name : String) (value : Value) :
    let resolved := (stack.frameOf? name).bind fun id => stack.frame? id
    stack.lookup? name = resolved.bind (Scope.get? name) ∧
      (stack.lookup? name = none ↔ stack.frameOf? name = none) ∧
      stack.assign? name value =
        ((stack.frameOf? name).bind fun id =>
          stack.modifyFrame? id (Scope.assignExisting name value)) ∧
      (stack.assign? name value).isSome = resolved.any (Scope.contains name) ∧
      ∀ after, stack.assign? name value = some after →
        after.lookup? name = some value ∧
          after.frames.length = stack.frames.length ∧
          ∀ (index : Nat) (before : Scope), stack.frames[index]? = some before →
            ∃ later, after.frames[index]? = some later ∧
              (before.id ≠ stack.frameOf? name → later = before) ∧
              (before.id = stack.frameOf? name →
                later.get? name = some value ∧ Scope.DiffersAt name before later) := by
  intro resolved
  have read : stack.lookup? name = resolved.bind (Scope.get? name) :=
    ScopeStack.lookup?_eq_frame identified distinct name
  have standing : resolved = stack.frames.find? (Scope.contains name) :=
    (ScopeStack.find?_contains_eq identified distinct name).symm
  -- A name is bound just if some scope has it, and that is the scope it resolves to.
  have flag : (stack.lookup? name).isSome = resolved.any (Scope.contains name) := by
    rw [read, standing]
    cases found : stack.frames.find? (Scope.contains name) with
    | none => rfl
    | some frame => rfl
  refine ⟨read, (ScopeStack.frameOf?_eq_none_iff identified name).symm,
    ScopeStack.assign?_eq_modifyFrame? identified distinct name value,
    (ScopeStack.isSome_assign?_eq name value stack).trans flag,
    fun after assigned => ⟨?_, ?_, fun index before stands =>
      ScopeStack.differsAt_assign? identified distinct assigned stands⟩⟩
  · have result : stack.assignExisting name value = after := by
      rw [ScopeStack.assignExisting, assigned, Option.getD_some]
    have bound : (stack.lookup? name).isSome = true := by
      rw [← ScopeStack.isSome_assign?_eq name value, assigned]
      rfl
    obtain ⟨old, present⟩ := Option.isSome_iff_exists.mp bound
    rw [← result]
    exact ScopeStack.lookup?_assignExisting_self present
  · have kept := congrArg List.length (ScopeStack.identities_assign? assigned)
    simpa [ScopeStack.identities] using kept

/-- The innermost scope does not bind `x`, and the two others do. -/
def middleOfThree : ScopeStack where
  global := { id := some ⟨0⟩, bindings := [("x", .int 1), ("z", .int 2)] }
  inner := [{ id := some ⟨5⟩, bindings := [("y", .int 6)] },
    { id := some ⟨2⟩, bindings := [("y", .int 3), ("x", .int 4), ("x.y", .int 5)] }]
  nextId := 6

theorem names_and_identities_agree_middleOfThree :
    (∀ frame ∈ middleOfThree.frames, frame.id.isSome = true) ∧ middleOfThree.identities.Nodup ∧
      middleOfThree.frameOf? "x" = some ⟨2⟩ ∧
      ∃ after, middleOfThree.assign? "x" (.int 7) = some after ∧
        after.lookup? "x" = some (.int 7) ∧ after.frames[2]? = middleOfThree.frames[2]? := by
  have identified : ∀ frame ∈ middleOfThree.frames, frame.id.isSome = true := by
    simp [middleOfThree, ScopeStack.frames]
  have distinct : middleOfThree.identities.Nodup := by decide
  have resolves : middleOfThree.frameOf? "x" = some ⟨2⟩ := by decide
  obtain ⟨after, assigned⟩ : ∃ after, middleOfThree.assign? "x" (.int 7) = some after := ⟨_, rfl⟩
  obtain ⟨-, -, -, -, changes⟩ := names_and_identities_agree identified distinct "x" (.int 7)
  obtain ⟨read, -, differs⟩ := changes after assigned
  obtain ⟨later, stands, untouched, -⟩ := differs 2 middleOfThree.global rfl
  have other : middleOfThree.global.id ≠ middleOfThree.frameOf? "x" := by decide
  rw [untouched other] at stands
  exact ⟨identified, distinct, resolves, after, assigned, read, stands⟩

end CooperativeTasks
