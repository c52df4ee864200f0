import CooperativeTasks.Proofs.Publishing
import CooperativeTasks.Proofs.Seclusion
import CooperativeTasks.Proofs.Veil

set_option autoImplicit false

/-! Writing to places and reading them back.

A name with dots is a field at the end of a path, unless it is bound as a whole. What a write to it
leaves under every name is said here once, for the fields of a value and for the names of a stack. -/

namespace CooperativeTasks

theorem Bindings.replace_absent {κ α : Type} [DecidableEq κ] {key : κ} {value : α}
    {entries : List (κ × α)} (absent : ¬ contains key entries = true) :
    replace key value entries = entries := by
  induction entries with
  | nil => rfl
  | cons entry rest ih =>
      by_cases same : entry.1 = key
      · simp [contains, get?, same] at absent
      · have later : ¬ contains key rest = true := by
          simpa [contains, get?, same] using absent
        simp [replace, same, ih later]

/-! ### Names of places -/

/-- The name of the place at the end of a path. -/
def placeName (base : String) (path : List String) : String := path.foldl memberName base

theorem toList_placeName (base : String) (path : List String) :
    (placeName base path).toList =
      base.toList ++ path.flatMap fun segment => '.' :: segment.toList := by
  unfold placeName
  induction path generalizing base with
  | nil => simp
  | cons segment rest ih => simp [ih, toList_memberName]

theorem splitDots_placeName {base : String} (whole : '.' ∉ base.toList) {path : List String}
    (segments : ∀ segment ∈ path, '.' ∉ segment.toList) :
    splitDots (placeName base path).toList = base.toList :: path.map String.toList := by
  rw [toList_placeName]
  induction path generalizing base with
  | nil => simpa using splitDots_of_not_mem whole
  | cons segment rest ih =>
      rw [List.forall_mem_cons] at segments
      rw [List.flatMap_cons, List.cons_append, splitDots_append whole, ih segments.1 segments.2]
      rfl

theorem Place.ofName_placeName {base : String} (whole : '.' ∉ base.toList) {path : List String}
    (segments : ∀ segment ∈ path, '.' ∉ segment.toList) :
    Place.ofName (placeName base path) = ⟨base, path⟩ := by
  unfold Place.ofName
  rw [splitDots_placeName whole segments]
  simp [Function.comp_def]

theorem Place.ofName_of_not_mem {name : String} (whole : '.' ∉ name.toList) :
    Place.ofName name = ⟨name, []⟩ :=
  @Place.ofName_placeName name whole [] nofun

theorem placeName_ne_base (base first : String) (rest : List String) :
    placeName base (first :: rest) ≠ base := by
  intro same
  have letters := congrArg (List.length ∘ String.toList) same
  simp only [Function.comp_apply, toList_placeName, List.length_append, List.flatMap_cons,
    List.length_cons] at letters
  omega

theorem placeName_ne_memberName (base first second : String) (rest : List String) :
    placeName base (first :: second :: rest) ≠ memberName base first :=
  placeName_ne_base (memberName base first) second rest

/-! ### Fields of values -/

namespace Value

theorem read?_of_write {slot updated value : Value} {path : List String}
    (written : slot.write path value = .ok updated) : updated.read? path = some value := by
  induction path generalizing slot updated with
  | nil =>
      cases written
      rfl
  | cons name rest ih =>
      cases slot with
      | struct typeName fields =>
          cases rest with
          | nil =>
              cases written
              simp [read?, field?, fields?]
          | cons next rest =>
              unfold write at written
              dsimp only at written
              cases held : Bindings.get? name fields with
              | none =>
                  rw [held] at written
                  cases written
              | some inner =>
                  rw [held] at written
                  dsimp only at written
                  cases deeper : inner.write (next :: rest) value with
                  | error fault =>
                      rw [deeper] at written
                      cases written
                  | ok changed =>
                      rw [deeper] at written
                      cases written
                      have here : Bindings.get? name (Bindings.replace name changed fields) =
                          some changed := by
                        rw [Bindings.get?_replace, held]
                        simp
                      rw [read?, field?, fields?, Option.bind_some, here]
                      exact ih deeper
      | _ => cases written

theorem write_struct {typeName name : String} {fields : List (String × Value)} {rest : List String}
    {value updated : Value}
    (written : (struct typeName fields).write (name :: rest) value = .ok updated) :
    ∃ inner : Value, updated = struct typeName (Bindings.insert name inner fields) ∧
      inner.read? rest = some value := by
  have reads := read?_of_write written
  cases rest with
  | nil =>
      cases written
      exact ⟨value, rfl, rfl⟩
  | cons next rest =>
      unfold write at written
      dsimp only at written
      cases held : Bindings.get? name fields with
      | none =>
          rw [held] at written
          cases written
      | some inner =>
          rw [held] at written
          dsimp only at written
          cases deeper : inner.write (next :: rest) value with
          | error fault =>
              rw [deeper] at written
              cases written
          | ok changed =>
              rw [deeper] at written
              cases written
              refine ⟨changed, ?_, read?_of_write deeper⟩
              rw [Bindings.insert_eq_replace]
              simp [Bindings.contains, held]

end Value

/-! ### Names of a stack -/

namespace ScopeStack

theorem lookup?_assignIn? (name other : String) (value : Value)
    (scopes : List (List (String × Value))) :
    ((assignIn? name value scopes).getD scopes).findSome? (Bindings.get? other) =
      (scopes.findSome? (Bindings.get? other)).map fun old => if name = other then value else old := by
  induction scopes with
  | nil => rfl
  | cons entries rest ih =>
      unfold assignIn?
      by_cases here : Bindings.contains name entries = true
      · rw [if_pos here, Option.getD_some, List.findSome?_cons, List.findSome?_cons,
          Bindings.get?_replace]
        cases bound : Bindings.get? other entries with
        | some old => rfl
        | none =>
            have different : name ≠ other := by
              rintro rfl
              rw [Bindings.contains, bound] at here
              cases here
            simp [different]
      · rw [if_neg here]
        have split : ((assignIn? name value rest).map (entries :: ·)).getD (entries :: rest) =
            entries :: (assignIn? name value rest).getD rest := by
          cases assignIn? name value rest <;> rfl
        rw [split, List.findSome?_cons, List.findSome?_cons, ih]
        cases bound : Bindings.get? other entries with
        | none => rfl
        | some old =>
            have different : name ≠ other := by
              rintro rfl
              exact here (by rw [Bindings.contains, bound]; rfl)
            simp [different]

theorem lookup?_assignExisting (name other : String) (value : Value) (stack : ScopeStack) :
    (stack.assignExisting name value).lookup? other =
      (stack.lookup? other).map fun old => if name = other then value else old := by
  have assigned : (stack.assignExisting name value).contents =
      (assignIn? name value stack.contents).getD stack.contents := by
    rw [← contents_assign?]
    unfold assignExisting
    cases stack.assign? name value <;> rfl
  rw [lookup?_eq, assigned, lookup?_assignIn?, ← lookup?_eq]

theorem lookup?_assignMembers (base other : String) (members : List (String × Value))
    (stack : ScopeStack) :
    (stack.assignMembers base members).lookup? other =
      (stack.lookup? other).map fun old =>
        (Bindings.get? other
          (members.reverse.map fun member => (memberName base member.1, member.2))).getD old := by
  induction members generalizing stack with
  | nil => simp [assignMembers, Bindings.get?]
  | cons member rest ih =>
      change ((stack.assignExisting (memberName base member.1) member.2).assignMembers base
        rest).lookup? other = _
      rw [ih, lookup?_assignExisting, Option.map_map, List.reverse_cons, List.map_append,
        Bindings.get?_append]
      congr 1
      funext old
      by_cases same : memberName base member.1 = other
      · cases Bindings.get? other
            (rest.reverse.map fun member => (memberName base member.1, member.2)) <;>
          simp [Bindings.get?, same]
      · simp [Bindings.get?, same]

theorem readPlace_of_bound {name : String} {value : Value} {stack : ScopeStack}
    (bound : stack.lookup? name = some value) : stack.readPlace name = .ok value := by
  unfold readPlace
  rw [bound]

theorem readPlace_of_path {name base first : String} {rest : List String} {value : Value}
    {stack : ScopeStack} (unbound : stack.lookup? name = none)
    (place : Place.ofName name = ⟨base, first :: rest⟩) (bound : stack.lookup? base = some value) :
    stack.readPlace name =
      (value.read? (first :: rest)).elim (.error (.fieldNotFound name)) .ok := by
  unfold readPlace
  rw [unbound, place]
  simp only [bound]
  cases value.read? (first :: rest) <;> rfl

theorem isSome_assign?_eq (name : String) (value : Value) (stack : ScopeStack) :
    (stack.assign? name value).isSome = (stack.lookup? name).isSome := by
  have listed (scopes : List (List (String × Value))) :
      (assignIn? name value scopes).isSome =
        (scopes.findSome? (Bindings.get? name)).isSome := by
    induction scopes with
    | nil => rfl
    | cons entries rest ih =>
        unfold assignIn?
        rw [List.findSome?_cons]
        cases bound : Bindings.get? name entries with
        | some old => simp [Bindings.contains, bound]
        | none => simpa [Bindings.contains, bound] using ih
  rw [lookup?_eq, ← listed, ← contents_assign?, Option.isSome_map]

theorem lookup?_of_current {name : String} {value : Value} {stack : ScopeStack}
    (bound : stack.current.get? name = some value) : stack.lookup? name = some value := by
  obtain ⟨global, inner, nextId⟩ := stack
  cases inner with
  | nil =>
      change global.get? name = some value at bound
      simp [lookup?, frames, bound]
  | cons innermost rest =>
      change innermost.get? name = some value at bound
      simp [lookup?, frames, bound]

theorem current_assignExisting (name : String) (value : Value) (stack : ScopeStack) :
    (stack.assignExisting name value).current = stack.current.assignExisting name value := by
  have absent {scope : Scope} (unbound : ¬ scope.contains name = true) :
      scope.assignExisting name value = scope := by
    unfold Scope.assignExisting
    rw [Bindings.replace_absent unbound]
  obtain ⟨global, inner, nextId⟩ := stack
  unfold assignExisting assign? modifyFirst? current
  cases inner with
  | nil =>
      by_cases here : global.contains name = true
      · simp [modifyFirstIn?, here]
      · simp [modifyFirstIn?, here, absent]
  | cons innermost rest =>
      by_cases here : innermost.contains name = true
      · simp [modifyFirstIn?, here]
      · cases modified : modifyFirstIn? (Scope.contains name) (Scope.assignExisting name value) rest with
        | some changed => simp [modifyFirstIn?, here, modified, absent]
        | none =>
            by_cases there : global.contains name = true
            · simp [modifyFirstIn?, here, modified, there, absent]
            · simp [modifyFirstIn?, here, modified, there, absent]

end ScopeStack

end CooperativeTasks
