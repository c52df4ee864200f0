import CooperativeTasks.Scope

set_option autoImplicit false

/-! The identities of the scopes on a stack.

Writing to scopes, of whatever kind, leaves the identities and their order alone; pushing puts
one in front, and truncating takes away from the front. -/

namespace CooperativeTasks

namespace Scope

@[simp] theorem define_id (name : String) (value : Value) (scope : Scope) :
    (scope.define name value).id = scope.id :=
  rfl

@[simp] theorem assignExisting_id (name : String) (value : Value) (scope : Scope) :
    (scope.assignExisting name value).id = scope.id :=
  rfl

@[simp] theorem remove_id (name : String) (scope : Scope) : (scope.remove name).id = scope.id :=
  rfl

end Scope

namespace ScopeStack

/-- Innermost first, the order of `frames`. -/
def identities (stack : ScopeStack) : List (Option ScopeId) := stack.frames.map Scope.id

theorem identities_eq (stack : ScopeStack) :
    stack.identities = stack.inner.map Scope.id ++ [stack.global.id] := by
  simp [identities, frames]

theorem length_identities (stack : ScopeStack) : stack.identities.length = stack.depth := by
  simp [identities_eq, depth]

theorem identities_modifyCurrent {change : Scope → Scope}
    (keeps : ∀ scope, (change scope).id = scope.id) (stack : ScopeStack) :
    (stack.modifyCurrent change).identities = stack.identities := by
  unfold modifyCurrent
  cases inner : stack.inner with
  | nil => simp [identities_eq, keeps, inner]
  | cons innermost rest => simp [identities_eq, keeps, inner]

theorem identities_modifyFirstIn? {test : Scope → Bool} {change : Scope → Scope}
    (keeps : ∀ scope, (change scope).id = scope.id) {scopes changed : List Scope}
    (found : modifyFirstIn? test change scopes = some changed) :
    changed.map Scope.id = scopes.map Scope.id := by
  induction scopes generalizing changed with
  | nil => cases found
  | cons scope rest ih =>
      unfold modifyFirstIn? at found
      split at found
      · cases found
        simp [keeps]
      · obtain ⟨tail, later, rfl⟩ := Option.map_eq_some_iff.mp found
        simp [ih later]

theorem identities_modifyFirst? {test : Scope → Bool} {change : Scope → Scope}
    (keeps : ∀ scope, (change scope).id = scope.id) {stack changed : ScopeStack}
    (found : stack.modifyFirst? test change = some changed) :
    changed.identities = stack.identities := by
  unfold modifyFirst? at found
  split at found
  · rename_i inner first
    cases found
    simp [identities_eq, identities_modifyFirstIn? keeps first]
  · split at found
    · cases found
      simp [identities_eq, keeps]
    · cases found

theorem modifyFirstIn?_append (test : Scope → Bool) (change : Scope → Scope)
    (above below : List Scope) :
    modifyFirstIn? test change (above ++ below) =
      ((modifyFirstIn? test change above).map (· ++ below)).or
        ((modifyFirstIn? test change below).map (above ++ ·)) := by
  induction above with
  | nil =>
      rw [List.nil_append]
      cases modifyFirstIn? test change below <;> rfl
  | cons scope rest ih =>
      by_cases here : test scope = true
      · simp [modifyFirstIn?, here]
      · simp only [List.cons_append, modifyFirstIn?, here, ih, if_false, Bool.false_eq_true]
        cases modifyFirstIn? test change rest with
        | some changed => rfl
        | none => cases modifyFirstIn? test change below <;> rfl

theorem modifyFirstIn?_concat (test : Scope → Bool) (change : Scope → Scope) (scopes : List Scope)
    (last : Scope) :
    modifyFirstIn? test change (scopes ++ [last]) =
      match modifyFirstIn? test change scopes with
      | some changed => some (changed ++ [last])
      | none => if test last then some (scopes ++ [change last]) else none := by
  rw [modifyFirstIn?_append]
  cases modifyFirstIn? test change scopes with
  | some changed => rfl
  | none => by_cases there : test last = true <;> simp [modifyFirstIn?, there]

theorem frames_modifyFirst? (test : Scope → Bool) (change : Scope → Scope) (stack : ScopeStack) :
    (stack.modifyFirst? test change).map frames = modifyFirstIn? test change stack.frames := by
  unfold modifyFirst?
  rw [frames, modifyFirstIn?_concat]
  cases modifyFirstIn? test change stack.inner with
  | some inner => rfl
  | none => by_cases there : test stack.global = true <;> simp [there, frames]

theorem identities_assign? {name : String} {value : Value} {stack changed : ScopeStack}
    (found : stack.assign? name value = some changed) : changed.identities = stack.identities :=
  identities_modifyFirst? (Scope.assignExisting_id name value) found

@[simp] theorem identities_assignExisting (name : String) (value : Value) (stack : ScopeStack) :
    (stack.assignExisting name value).identities = stack.identities := by
  unfold assignExisting
  cases found : stack.assign? name value with
  | none => rfl
  | some changed => exact identities_assign? found

theorem writePlace_eq (name : String) (value : Value) (stack : ScopeStack) :
    stack.writePlace name value =
      let written := stack.assignExisting name value
      match (Place.ofName name).path with
      | [] =>
          (written, if (stack.assign? name value).isSome then .ok ()
            else .error (.undefinedVariable name))
      | field :: path =>
          match written.lookup? (Place.ofName name).base with
          | none =>
              (written, if (stack.assign? name value).isSome then .ok ()
                else .error (.undefinedVariable (Place.ofName name).base))
          | some base =>
              match base.write (field :: path) value with
              | .ok updated => (written.assignExisting (Place.ofName name).base updated, .ok ())
              | .error fault => (written, .error fault) := by
  unfold writePlace assignExisting
  dsimp only
  cases (Place.ofName name).path with
  | nil => cases stack.assign? name value <;> rfl
  | cons field path =>
      dsimp only
      cases ((stack.assign? name value).getD stack).lookup? (Place.ofName name).base with
      | none =>
          dsimp only
          split <;> rfl
      | some base =>
          cases written : base.write (field :: path) value with
          | ok updated => simp only [written]
          | error fault => simp only [written]

@[simp] theorem identities_writePlace (name : String) (value : Value) (stack : ScopeStack) :
    (stack.writePlace name value).1.identities = stack.identities := by
  have flattened : ((stack.assign? name value).getD stack).identities = stack.identities :=
    identities_assignExisting name value stack
  unfold writePlace
  dsimp only
  split
  · split
    · rename_i updated found
      exact identities_assign? found
    · rfl
  · split
    · split
      · rw [identities_assignExisting, flattened]
      · exact flattened
    · split <;> exact flattened

theorem identities_push (scope : Scope) (stack : ScopeStack) :
    ∃ id : ScopeId, (stack.push scope).identities = some id :: stack.identities := by
  unfold push
  split
  · rename_i id known
    exact ⟨id, by simp [identities_eq, known]⟩
  · exact ⟨⟨stack.nextId⟩, by simp [identities_eq]⟩

theorem identities_truncate (depth : Nat) (stack : ScopeStack) (proper : 0 < depth) :
    (stack.truncate depth).identities = stack.identities.drop (stack.depth - depth) := by
  have count : stack.depth - depth = stack.inner.length - (depth - 1) := by
    unfold ScopeStack.depth
    omega
  rw [identities_eq, identities_eq, count, List.drop_append_of_le_length]
  · simp [truncate, List.map_drop]
  · rw [List.length_map]
    omega

theorem identities_truncate_push {scope : Scope} {stack left : ScopeStack}
    (same : left.identities = (stack.push scope).identities) :
    (left.truncate stack.depth).identities = stack.identities := by
  obtain ⟨id, pushed⟩ := identities_push scope stack
  have depths : left.depth = stack.depth + 1 := by
    rw [← length_identities, same, pushed, List.length_cons, length_identities]
  rw [identities_truncate stack.depth left (Nat.succ_pos _), depths, same, pushed,
    Nat.add_sub_cancel_left]
  rfl

end ScopeStack

end CooperativeTasks
