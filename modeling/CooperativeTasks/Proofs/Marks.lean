import CooperativeTasks.Positions

set_option autoImplicit false

/-! Reading positions as a table of marks.

A position is a mark on a statement list: where it is to be resumed, or that the loop whose body
it is has been entered. What matters of a table of positions is what it has under each mark, and
which marks belong to the part of a program that is below a given path. -/

namespace CooperativeTasks

namespace Bindings

variable {κ α : Type} [DecidableEq κ] {key : κ} {value : α} {entries : List (κ × α)}

theorem get?_eq_none (absent : key ∉ entries.map Prod.fst) : get? key entries = none := by
  induction entries with
  | nil => rfl
  | cons entry rest ih =>
      rw [List.map_cons, List.mem_cons, not_or] at absent
      simp [get?, Ne.symm absent.1, ih absent.2]

theorem get?_eq_some_iff (distinct : (entries.map Prod.fst).Nodup) (key : κ) (value : α) :
    get? key entries = some value ↔ (key, value) ∈ entries := by
  induction entries with
  | nil => simp [get?]
  | cons entry rest ih =>
      rw [List.map_cons, List.nodup_cons] at distinct
      rw [List.mem_cons]
      by_cases here : entry.1 = key
      · have later : (key, value) ∉ rest := fun member =>
          distinct.1 (here ▸ List.mem_map_of_mem (f := Prod.fst) member)
        simp [get?, here, later, Prod.ext_iff, eq_comm]
      · have other : (key, value) ≠ entry := fun same => here (congrArg Prod.fst same).symm
        simp [get?, here, other, ih distinct.2]

theorem get?_erase_self (distinct : (entries.map Prod.fst).Nodup) :
    get? key (erase key entries) = none := by
  induction entries with
  | nil => rfl
  | cons entry rest ih =>
      rw [List.map_cons, List.nodup_cons] at distinct
      by_cases same : entry.1 = key
      · rw [same] at distinct
        simp [erase, same, get?_eq_none distinct.1]
      · simp [erase, same, get?, ih distinct.2]

theorem get?_erase_of_ne {other : κ} (different : other ≠ key) (entries : List (κ × α)) :
    get? other (erase key entries) = get? other entries := by
  induction entries with
  | nil => rfl
  | cons entry rest ih =>
      by_cases same : entry.1 = key
      · simp [erase, same, get?, different.symm]
      · simp [erase, same, get?, ih]

theorem mem_keys_insert {other : κ} (member : other ∈ (insert key value entries).map Prod.fst) :
    other = key ∨ other ∈ entries.map Prod.fst := by
  induction entries with
  | nil => exact .inl (List.mem_singleton.mp member)
  | cons entry rest ih =>
      by_cases same : entry.1 = key
      · simp only [insert, same, if_true, List.map_cons, List.mem_cons] at member ⊢
        rcases member with first | later
        · exact .inl first
        · exact .inr (.inr later)
      · simp only [insert, same, if_false, List.map_cons, List.mem_cons] at member ⊢
        rcases member with first | later
        · exact .inr (.inl first)
        · exact (ih later).imp_right .inr

theorem nodup_keys_insert (distinct : (entries.map Prod.fst).Nodup) (key : κ) (value : α) :
    ((insert key value entries).map Prod.fst).Nodup := by
  induction entries with
  | nil => simp [insert]
  | cons entry rest ih =>
      rw [List.map_cons, List.nodup_cons] at distinct
      by_cases same : entry.1 = key
      · simp only [insert, same, if_true, List.map_cons]
        rw [← same]
        exact List.nodup_cons.mpr distinct
      · simp only [insert, same, if_false, List.map_cons]
        refine List.nodup_cons.mpr ⟨?_, ih distinct.2⟩
        intro member
        rcases mem_keys_insert member with here | later
        · exact same here
        · exact distinct.1 later

theorem nodup_keys_insertAll (distinct : (entries.map Prod.fst).Nodup) (additions : List (κ × α)) :
    ((insertAll additions entries).map Prod.fst).Nodup := by
  induction additions generalizing entries with
  | nil => exact distinct
  | cons addition rest ih => exact ih (nodup_keys_insert distinct addition.1 addition.2)

theorem keys_erase_sublist (key : κ) (entries : List (κ × α)) :
    ((erase key entries).map Prod.fst).Sublist (entries.map Prod.fst) := by
  induction entries with
  | nil => exact .slnil
  | cons entry rest ih =>
      by_cases same : entry.1 = key
      · simp only [erase, same, if_true, List.map_cons]
        exact List.sublist_cons_self _ _
      · simp only [erase, same, if_false, List.map_cons]
        exact ih.cons_cons _

end Bindings

namespace Positions

inductive Mark where
  | resume (key : ListKey)
  | entered (key : ListKey)
  deriving DecidableEq

def reads (positions : Positions) : Mark → Option Nat
  | .resume key => positions.get? key
  | .entered key => if positions.loopEntered key then some 0 else none

/-- Every mark is there once at most, and there is no place to resume at in an empty list. -/
structure Tidy (positions : Positions) : Prop where
  resume : (positions.resume.map Prod.fst).Nodup
  entered : positions.entered.Nodup
  empty : positions.get? .empty = none

theorem tidy_start : Tidy {} :=
  ⟨List.nodup_nil, List.nodup_nil, rfl⟩

theorem reads_start (mark : Mark) : ({} : Positions).reads mark = none := by
  cases mark <;> rfl

variable {positions : Positions}

theorem reads_set (key : ListKey) (index : Nat) (positions : Positions) (mark : Mark) :
    (positions.set key index).reads mark =
      if mark = .resume key then some index else positions.reads mark := by
  cases mark with
  | entered other =>
      rw [if_neg nofun]
      rfl
  | resume other =>
      by_cases same : other = key
      · simp [reads, set, get?, same]
      · simp [reads, set, get?, same, Bindings.get?_insert_of_ne same]

theorem reads_clear (tidy : positions.Tidy) (key : ListKey) (mark : Mark) :
    (positions.clear key).reads mark =
      if mark = .resume key then none else positions.reads mark := by
  cases mark with
  | entered other =>
      rw [if_neg nofun]
      rfl
  | resume other =>
      by_cases same : other = key
      · simp [reads, clear, get?, same, Bindings.get?_erase_self tidy.resume]
      · simp [reads, clear, get?, same, Bindings.get?_erase_of_ne same]

theorem reads_enterLoop (key : ListKey) (positions : Positions) (mark : Mark) :
    (positions.enterLoop key).reads mark =
      if mark = .entered key then some 0 else positions.reads mark := by
  cases mark with
  | resume other => simp [reads, enterLoop, get?]
  | entered other =>
      have membership : other ∈ (positions.enterLoop key).entered ↔
          other = key ∨ other ∈ positions.entered := by
        unfold enterLoop
        by_cases already : key ∈ positions.entered
        · simp only [already, if_true]
          constructor
          · exact .inr
          · rintro (rfl | member)
            · exact already
            · exact member
        · simp [already]
      by_cases same : other = key
      · subst other
        simp [reads, loopEntered, membership]
      · simp [reads, loopEntered, membership, same]

theorem reads_exitLoop (tidy : positions.Tidy) (key : ListKey) (mark : Mark) :
    (positions.exitLoop key).reads mark =
      if mark = .entered key then none else positions.reads mark := by
  cases mark with
  | resume other => simp [reads, exitLoop, get?]
  | entered other =>
      by_cases same : other = key
      · simp [reads, exitLoop, loopEntered, same, List.Nodup.mem_erase_iff tidy.entered]
      · simp [reads, exitLoop, loopEntered, same, List.mem_erase_of_ne same]

namespace Tidy

variable (tidy : positions.Tidy)

include tidy

theorem set {key : ListKey} (located : key ≠ .empty) (index : Nat) :
    (positions.set key index).Tidy where
  resume := Bindings.nodup_keys_insert tidy.resume key index
  entered := tidy.entered
  empty := (Bindings.get?_insert_of_ne located.symm index positions.resume).trans tidy.empty

theorem clear (key : ListKey) : (positions.clear key).Tidy where
  resume := tidy.resume.sublist (Bindings.keys_erase_sublist key positions.resume)
  entered := tidy.entered
  empty := by
    by_cases same : ListKey.empty = key
    · rw [same]
      exact Bindings.get?_erase_self tidy.resume
    · exact (Bindings.get?_erase_of_ne same positions.resume).trans tidy.empty

theorem enterLoop (key : ListKey) : (positions.enterLoop key).Tidy where
  resume := tidy.resume
  entered := by
    unfold Positions.enterLoop
    by_cases already : key ∈ positions.entered
    · simp only [already, if_true]
      exact tidy.entered
    · simp only [already, if_false]
      exact List.nodup_cons.mpr ⟨already, tidy.entered⟩
  empty := tidy.empty

theorem exitLoop (key : ListKey) : (positions.exitLoop key).Tidy where
  resume := tidy.resume
  entered := tidy.entered.erase key
  empty := tidy.empty

end Tidy

/-! ### Marks below a path -/

/-- The marks that the statement at a path may set. -/
def Under (path : Path) : Mark → Prop
  | .resume .empty => False
  | .resume (.located place) => path <:+ place ∧ place ≠ path
  | .entered .empty => True
  | .entered (.located place) => path <:+ place ∧ place ≠ path

/-- The marks that the list at a path may set. -/
def Within (path : Path) (statements : List Stmt) : Mark → Prop
  | .resume .empty => False
  | .resume (.located place) => path <:+ place
  | .entered .empty => statements ≠ []
  | .entered (.located place) => path <:+ place ∧ place ≠ path

theorem suffix_of_cons {turn : Turn} {path place : Path} (below : turn :: path <:+ place) :
    path <:+ place ∧ place ≠ path := by
  refine ⟨(List.suffix_cons turn path).trans below, ?_⟩
  rintro rfl
  have shorter := below.length_le
  simp only [List.length_cons] at shorter
  omega

theorem within_of_under {index : Nat} {path : Path} {statements : List Stmt}
    (present : statements ≠ []) {mark : Mark} (under : Under (.item index :: path) mark) :
    Within path statements mark ∧ mark ≠ .resume (.located path) := by
  match mark with
  | .resume .empty => exact under.elim
  | .resume (.located place) =>
      obtain ⟨below, different⟩ := suffix_of_cons under.1
      refine ⟨below, ?_⟩
      rintro ⟨⟩
      exact different rfl
  | .entered .empty => exact ⟨present, nofun⟩
  | .entered (.located place) => exact ⟨suffix_of_cons under.1, nofun⟩

theorem under_of_within {turn : Turn} {path : Path} {statements : List Stmt} {mark : Mark}
    (within : Within (turn :: path) statements mark) : Under path mark := by
  match mark with
  | .resume .empty => exact within.elim
  | .resume (.located place) => exact suffix_of_cons within
  | .entered .empty => exact trivial
  | .entered (.located place) => exact suffix_of_cons within.1

theorem entered_body (path : Path) (body : List Stmt) :
    Under path (.entered (.of (.body :: path) body)) ∧
      ¬ Within (.body :: path) body (.entered (.of (.body :: path) body)) := by
  cases body with
  | nil => exact ⟨trivial, fun present => present rfl⟩
  | cons statement rest =>
      exact ⟨suffix_of_cons (List.suffix_refl _), fun inside => inside.2 rfl⟩

end Positions

end CooperativeTasks
