set_option autoImplicit false

/-! Finite maps that keep the order in which their keys first appeared.

A map is a list of entries. Overwriting keeps an entry where it is, a new key goes
to the end, and erasing closes the gap. Nothing here asks for the keys to be distinct:
every operation works on the first entry of a key, so that reading after writing is
right for any list, and a list built from `[]` by these operations has distinct keys. -/

namespace CooperativeTasks.Bindings

variable {κ α : Type} [DecidableEq κ]

def get? (key : κ) : List (κ × α) → Option α
  | [] => none
  | (name, value) :: rest => if name = key then some value else get? key rest

def contains (key : κ) (entries : List (κ × α)) : Bool :=
  (get? key entries).isSome

/-- Writes `value` over the entry of `key`; entries without that key stay as they are. -/
def replace (key : κ) (value : α) : List (κ × α) → List (κ × α)
  | [] => []
  | (name, old) :: rest =>
      if name = key then (name, value) :: rest else (name, old) :: replace key value rest

/-- Writes `value` over the entry of `key`, or adds an entry at the end. -/
def insert (key : κ) (value : α) : List (κ × α) → List (κ × α)
  | [] => [(key, value)]
  | (name, old) :: rest =>
      if name = key then (name, value) :: rest else (name, old) :: insert key value rest

def erase (key : κ) : List (κ × α) → List (κ × α)
  | [] => []
  | (name, value) :: rest => if name = key then rest else (name, value) :: erase key rest

def insertAll (additions entries : List (κ × α)) : List (κ × α) :=
  additions.foldl (fun known addition => insert addition.1 addition.2 known) entries

/-! ### Reading after writing -/

@[simp] theorem get?_insert_self (key : κ) (value : α) (entries : List (κ × α)) :
    get? key (insert key value entries) = some value := by
  induction entries with
  | nil => simp [insert, get?]
  | cons entry rest ih =>
      by_cases same : entry.1 = key
      · simp [insert, get?, same]
      · simp [insert, get?, same, ih]

theorem get?_insert_of_ne {key other : κ} (different : other ≠ key) (value : α)
    (entries : List (κ × α)) : get? other (insert key value entries) = get? other entries := by
  induction entries with
  | nil => simp [insert, get?, different.symm]
  | cons entry rest ih =>
      by_cases same : entry.1 = key
      · simp [insert, get?, same, different.symm]
      · simp [insert, get?, same, ih]

theorem insert_eq_replace {key : κ} (value : α) {entries : List (κ × α)}
    (present : contains key entries = true) : insert key value entries = replace key value entries := by
  induction entries with
  | nil => simp [contains, get?] at present
  | cons entry rest ih =>
      by_cases same : entry.1 = key
      · simp [insert, replace, same]
      · simp only [contains, get?, same, if_false] at present
        simp [insert, replace, same, ih present]

@[simp] theorem keys_replace (key : κ) (value : α) (entries : List (κ × α)) :
    (replace key value entries).map Prod.fst = entries.map Prod.fst := by
  induction entries with
  | nil => rfl
  | cons entry rest ih =>
      by_cases same : entry.1 = key
      · simp [replace, same]
      · simp [replace, same, ih]

end CooperativeTasks.Bindings
