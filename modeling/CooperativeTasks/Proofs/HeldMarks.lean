import CooperativeTasks.Proofs.Marks

set_option autoImplicit false

/-! The marks that a statement is resumed by.

A statement that is resumed goes on with one of its lists, that with one of its statements, and so
on inwards. The marks on this way are the ones that the statement holds. Whatever else there is in a
table of positions, the statement does not see it, as long as no mark of another list is in its
way. -/

namespace CooperativeTasks

/-- A list that the statement may execute, and the turn by which it gets there. -/
inductive Stmt.Branch : Stmt → Turn → List Stmt → Prop where
  | thenBranch (condition : Expr) (first second : List Stmt) :
      Branch (.ifThen condition first second) .thenBranch first
  | elseBranch (condition : Expr) (first second : List Stmt) :
      Branch (.ifThen condition first second) .elseBranch second
  | whileLoop (condition : Expr) (body : List Stmt) : Branch (.whileLoop condition body) .body body
  | forLoop (init : Option Stmt) (condition : Option Expr) (update : Option Stmt)
      (body : List Stmt) : Branch (.forLoop init condition update body) .body body
  | block (body : List Stmt) : Branch (.block body) .body body

def Stmt.hasLists : Stmt → Bool
  | .ifThen .. => true
  | .whileLoop .. => true
  | .forLoop .. => true
  | .block _ => true
  | _ => false

theorem Stmt.Branch.hasLists {statement : Stmt} {turn : Turn} {list : List Stmt}
    (branch : statement.Branch turn list) : statement.hasLists = true := by
  cases branch <;> rfl

namespace Positions

variable {positions : Positions}

def Bears (positions : Positions) (mark : Mark) : Prop := positions.reads mark ≠ none

theorem not_bears_start (mark : Mark) : ¬ ({} : Positions).Bears mark :=
  fun bears => bears (reads_start mark)

theorem bears_set {key : ListKey} {index : Nat} {mark : Mark}
    (bears : (positions.set key index).Bears mark) : mark = .resume key ∨ positions.Bears mark := by
  unfold Bears at bears
  rw [reads_set] at bears
  by_cases own : mark = .resume key
  · exact .inl own
  · rw [if_neg own] at bears
    exact .inr bears

theorem bears_enterLoop {key : ListKey} {mark : Mark}
    (bears : (positions.enterLoop key).Bears mark) :
    mark = .entered key ∨ positions.Bears mark := by
  unfold Bears at bears
  rw [reads_enterLoop] at bears
  by_cases own : mark = .entered key
  · exact .inl own
  · rw [if_neg own] at bears
    exact .inr bears

theorem bears_clear (tidy : positions.Tidy) {key : ListKey} {mark : Mark}
    (bears : (positions.clear key).Bears mark) :
    mark ≠ .resume key ∧ positions.Bears mark := by
  unfold Bears at bears
  rw [reads_clear tidy] at bears
  by_cases own : mark = .resume key
  · rw [if_pos own] at bears
    exact absurd rfl bears
  · rw [if_neg own] at bears
    exact ⟨own, bears⟩

theorem bears_exitLoop (tidy : positions.Tidy) {key : ListKey} {mark : Mark}
    (bears : (positions.exitLoop key).Bears mark) :
    mark ≠ .entered key ∧ positions.Bears mark := by
  unfold Bears at bears
  rw [reads_exitLoop tidy] at bears
  by_cases own : mark = .entered key
  · rw [if_pos own] at bears
    exact absurd rfl bears
  · rw [if_neg own] at bears
    exact ⟨own, bears⟩

theorem bears_entry {entry : ListKey × Nat} (member : entry ∈ positions.resume)
    (tidy : positions.Tidy) : positions.get? entry.1 = some entry.2 :=
  (Bindings.get?_eq_some_iff tidy.resume entry.1 entry.2).mpr member

theorem bears_entered {key : ListKey} (member : key ∈ positions.entered) :
    positions.Bears (.entered key) := by
  unfold Bears reads loopEntered
  simp [member]

theorem eq_start (unmarked : ∀ mark, ¬ positions.Bears mark) : positions = {} := by
  obtain ⟨resume, entered⟩ := positions
  have nowhere : resume = [] := by
    cases resume with
    | nil => rfl
    | cons entry rest =>
        refine absurd ?_ (unmarked (.resume entry.1))
        simp [Bears, reads, get?, Bindings.get?]
  have outside : entered = [] := by
    cases entered with
    | nil => rfl
    | cons key rest => exact absurd (bears_entered List.mem_cons_self) (unmarked (.entered key))
  rw [nowhere, outside]

/-! ### The way inwards -/

/-- The statement goes on with this list if it is marked. A marked then branch comes first. -/
structure Goes (positions : Positions) (path : Path) (statement : Stmt) (turn : Turn)
    (list : List Stmt) : Prop where
  branch : statement.Branch turn list
  first : turn = .elseBranch → ∀ earlier, statement.Branch .thenBranch earlier →
    positions.get? (.of (.thenBranch :: path) earlier) = none

/-- The statement at the path is resumed by this mark, or something inside of it is. -/
inductive Held (positions : Positions) : Path → Stmt → Mark → Prop where
  | entered {path : Path} {init : Option Stmt} {condition : Option Expr} {update : Option Stmt}
      {body : List Stmt} :
      Held positions path (.forLoop init condition update body)
        (.entered (.of (.body :: path) body))
  | resumed {path : Path} {statement : Stmt} {turn : Turn} {list : List Stmt} {index : Nat}
      (goes : positions.Goes path statement turn list)
      (found : positions.get? (.of (turn :: path) list) = some index)
      (within : index ≤ list.length) :
      Held positions path statement (.resume (.of (turn :: path) list))
  | inner {path : Path} {statement : Stmt} {turn : Turn} {list : List Stmt} {index : Nat}
      {next : Stmt} {mark : Mark} (goes : positions.Goes path statement turn list)
      (found : positions.get? (.of (turn :: path) list) = some index)
      (present : list[index]? = some next)
      (held : Held positions (.item index :: turn :: path) next mark) :
      Held positions path statement mark

/-- The list at the path is resumed by this mark, or something inside of it is. -/
inductive Suspended (positions : Positions) (path : Path) (list : List Stmt) : Mark → Prop where
  | own {index : Nat} (found : positions.get? (.of path list) = some index)
      (within : index ≤ list.length) : Suspended positions path list (.resume (.of path list))
  | item {index : Nat} {next : Stmt} {mark : Mark}
      (found : positions.get? (.of path list) = some index) (present : list[index]? = some next)
      (held : positions.Held (.item index :: path) next mark) : Suspended positions path list mark

theorem Goes.held {path : Path} {statement : Stmt} {turn : Turn} {list : List Stmt} {mark : Mark}
    (goes : positions.Goes path statement turn list)
    (suspended : positions.Suspended (turn :: path) list mark) :
    positions.Held path statement mark := by
  cases suspended with
  | own found within => exact .resumed goes found within
  | item found present held => exact .inner goes found present held

theorem Held.cases {path : Path} {statement : Stmt} {mark : Mark}
    (held : positions.Held path statement mark) :
    (∃ init condition update body, statement = .forLoop init condition update body ∧
      mark = .entered (.of (.body :: path) body)) ∨
    ∃ turn list, positions.Goes path statement turn list ∧
      positions.Suspended (turn :: path) list mark := by
  cases held with
  | entered => exact .inl ⟨_, _, _, _, rfl, rfl⟩
  | resumed goes found within => exact .inr ⟨_, _, goes, .own found within⟩
  | inner goes found present held => exact .inr ⟨_, _, goes, .item found present held⟩

theorem Goes.of {path : Path} {statement : Stmt} {turn : Turn} {list : List Stmt}
    (branch : statement.Branch turn list) (other : turn ≠ .elseBranch := by decide) :
    positions.Goes path statement turn list :=
  ⟨branch, fun same => absurd same other⟩

section

variable {path : Path} {mark : Mark}

theorem Held.ifThen {condition : Expr} {first second : List Stmt}
    (held : positions.Held path (.ifThen condition first second) mark) :
    positions.Suspended (.thenBranch :: path) first mark ∨
      positions.get? (.of (.thenBranch :: path) first) = none ∧
        positions.Suspended (.elseBranch :: path) second mark := by
  rcases held.cases with ⟨_, _, _, _, impossible, _⟩ | ⟨turn, list, goes, suspended⟩
  · cases impossible
  · cases goes.branch with
    | thenBranch => exact .inl suspended
    | elseBranch => exact .inr ⟨goes.first rfl first (.thenBranch ..), suspended⟩

theorem Held.whileLoop {condition : Expr} {body : List Stmt}
    (held : positions.Held path (.whileLoop condition body) mark) :
    positions.Suspended (.body :: path) body mark := by
  rcases held.cases with ⟨_, _, _, _, impossible, _⟩ | ⟨turn, list, goes, suspended⟩
  · cases impossible
  · cases goes.branch
    exact suspended

theorem Held.forLoop {init : Option Stmt} {condition : Option Expr} {update : Option Stmt}
    {body : List Stmt} (held : positions.Held path (.forLoop init condition update body) mark) :
    mark = .entered (.of (.body :: path) body) ∨ positions.Suspended (.body :: path) body mark := by
  rcases held.cases with ⟨_, _, _, _, same, own⟩ | ⟨turn, list, goes, suspended⟩
  · cases same
    exact .inl own
  · cases goes.branch
    exact .inr suspended

theorem Held.block {body : List Stmt} (held : positions.Held path (.block body) mark) :
    positions.Suspended (.body :: path) body mark := by
  rcases held.cases with ⟨_, _, _, _, impossible, _⟩ | ⟨turn, list, goes, suspended⟩
  · cases impossible
  · cases goes.branch
    exact suspended

theorem not_held {statement : Stmt} (simple : statement.hasLists = false) :
    ¬ positions.Held path statement mark := by
  intro held
  have lists : statement.hasLists = true := by
    rcases held.cases with ⟨init, condition, update, body, rfl, _⟩ | ⟨turn, list, goes, _⟩
    · rfl
    · exact goes.branch.hasLists
  exact absurd (simple.symm.trans lists) Bool.false_ne_true

end

theorem not_suspended {path : Path} {list : List Stmt}
    (unmarked : positions.get? (.of path list) = none) (mark : Mark) :
    ¬ positions.Suspended path list mark := by
  intro suspended
  cases suspended with
  | own found _ =>
      rw [unmarked] at found
      cases found
  | item found _ _ =>
      rw [unmarked] at found
      cases found

/-! ### What the marks that are held depend on -/

theorem under_of_under {turn : Turn} {path : Path} {mark : Mark}
    (under : Under (turn :: path) mark) : Under path mark := by
  match mark with
  | .resume .empty => exact under
  | .resume (.located place) => exact suffix_of_cons under.1
  | .entered .empty => exact trivial
  | .entered (.located place) => exact suffix_of_cons under.1

theorem turns_apart {turn other : Turn} (different : turn ≠ other) {path place : Path}
    (below : turn :: path <:+ place) : ¬ other :: path <:+ place := by
  intro beside
  have shared := List.suffix_of_suffix_length_le below beside (Nat.le_refl _)
  have same := shared.eq_of_length rfl
  injection same with first
  exact different first

section Alike

variable {other : Positions} (tidy : positions.Tidy) (tidy' : other.Tidy)

include tidy tidy'

theorem get?_alike {path : Path} {list : List Stmt}
    (alike : list ≠ [] → other.get? (.located path) = positions.get? (.located path)) :
    other.get? (.of path list) = positions.get? (.of path list) := by
  cases list with
  | nil => exact tidy'.empty.trans tidy.empty.symm
  | cons statement rest => exact alike (List.cons_ne_nil statement rest)

theorem Goes.alike {path : Path}
    (alike : ∀ key, Under path (.resume key) → other.get? key = positions.get? key)
    {statement : Stmt} {turn : Turn} {list : List Stmt}
    (goes : positions.Goes path statement turn list) : other.Goes path statement turn list where
  branch := goes.branch
  first second earlier branch := by
    refine (get?_alike tidy tidy' fun _ => ?_).trans (goes.first second earlier branch)
    exact alike _ (suffix_of_cons (List.suffix_refl _))

theorem Held.alike {path : Path} {statement : Stmt} {mark : Mark}
    (held : positions.Held path statement mark)
    (alike : ∀ key, Under path (.resume key) → other.get? key = positions.get? key) :
    other.Held path statement mark := by
  have marked {path : Path} {turn : Turn} {list : List Stmt}
      (alike : ∀ key, Under path (.resume key) → other.get? key = positions.get? key) :
      other.get? (.of (turn :: path) list) = positions.get? (.of (turn :: path) list) :=
    get?_alike tidy tidy' fun _ => alike _ (suffix_of_cons (List.suffix_refl _))
  induction held with
  | entered => exact .entered
  | resumed goes found within =>
      exact .resumed (goes.alike tidy tidy' alike) ((marked alike).trans found) within
  | inner goes found present _ ih =>
      refine .inner (goes.alike tidy tidy' alike) ((marked alike).trans found) present (ih ?_)
      exact fun key under => alike key (under_of_under (under_of_under under))

theorem Suspended.alike {path : Path} {list : List Stmt} {mark : Mark}
    (suspended : positions.Suspended path list mark)
    (alike : ∀ key, Within path list (.resume key) → other.get? key = positions.get? key) :
    other.Suspended path list mark := by
  have marked : other.get? (.of path list) = positions.get? (.of path list) :=
    get?_alike tidy tidy' fun _ => alike _ (List.suffix_refl path)
  cases suspended with
  | own found within => exact .own (marked.trans found) within
  | item found present held =>
      refine .item (marked.trans found) present (held.alike tidy tidy' fun key under => ?_)
      have some : list ≠ [] := by
        rintro rfl
        cases present
      exact alike key (within_of_under some under).1

end Alike

/-! ### What code does to marks -/

/-- The part of a table that a piece of code works on. -/
structure Passage where
  /-- The marks that it may set and take away. -/
  inside : Mark → Prop
  /-- It may give way without having to be resumed. -/
  yields : Prop
  /-- The marks that it is to be resumed by. -/
  rests : Positions → Mark → Prop

namespace Passage

/-- From one table to another, only marks of the code have changed. Those that it held are gone, and
none has been added but those that are left. -/
structure Leaves (passage : Passage) (held left : Mark → Prop) (before after : Positions) :
    Prop where
  tidy : after.Tidy
  outside : ∀ mark, ¬ passage.inside mark → after.reads mark = before.reads mark
  present : ∀ mark, after.Bears mark → left mark ∨ before.Bears mark ∧ ¬ held mark

/-- The code has come to its end and left no marks. -/
def Ends (passage : Passage) (held : Mark → Prop) (before after : Positions) : Prop :=
  passage.Leaves held (fun _ => False) before after

/-- The code has been suspended. -/
def Pauses (passage : Passage) (held : Mark → Prop) (before after : Positions) : Prop :=
  passage.Leaves held (passage.rests after) before after

variable {passage : Passage} {held held' left : Mark → Prop} {before middle after : Positions}

theorem Leaves.refl (tidy : before.Tidy) (unheld : ∀ mark, ¬ held mark) :
    passage.Leaves held left before before where
  tidy := tidy
  outside _ _ := rfl
  present mark bears := .inr ⟨bears, unheld mark⟩

theorem Ends.present (ends : passage.Ends held before after) {mark : Mark}
    (bears : after.Bears mark) : before.Bears mark ∧ ¬ held mark :=
  (Leaves.present ends mark bears).resolve_left id

theorem Leaves.follow {whole : Mark → Prop} (leaves : passage.Leaves held' left middle after)
    (ends : passage.Ends held before middle)
    (covers : ∀ mark, whole mark → held mark ∨ held' mark) :
    passage.Leaves whole left before after where
  tidy := leaves.tidy
  outside mark away := (leaves.outside mark away).trans (ends.outside mark away)
  present mark bears := by
    refine (leaves.present mark bears).imp_right ?_
    rintro ⟨between, kept⟩
    obtain ⟨earlier, apart⟩ := ends.present between
    exact ⟨earlier, fun member => (covers mark member).elim apart kept⟩

theorem Leaves.widen {wide : Passage} {left' : Mark → Prop}
    (leaves : passage.Leaves held left before after)
    (inside : ∀ mark, passage.inside mark → wide.inside mark)
    (holds : ∀ mark, held' mark → held mark) (leaving : ∀ mark, left mark → left' mark) :
    wide.Leaves held' left' before after where
  tidy := leaves.tidy
  outside mark away := leaves.outside mark fun within => away (inside mark within)
  present mark bears := by
    rcases leaves.present mark bears with rests | ⟨earlier, apart⟩
    · exact .inl (leaving mark rests)
    · exact .inr ⟨earlier, fun member => apart (holds mark member)⟩

theorem Ends.widen {wide : Passage} (ends : passage.Ends held before after)
    (inside : ∀ mark, passage.inside mark → wide.inside mark)
    (holds : ∀ mark, held' mark → held mark) : wide.Ends held' before after :=
  Leaves.widen ends inside holds fun _ => id

end Passage

end Positions

end CooperativeTasks
