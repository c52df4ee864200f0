import CooperativeTasks.Proofs.HeldMarks
import CooperativeTasks.Proofs.Signals
import CooperativeTasks.Proofs.Suspension

set_option autoImplicit false

/-! Which marks executing a statement takes away and which it leaves.

A statement that comes to its end has taken away the marks that it held, and left none. One that is
suspended has taken them away as well and left others, of which every one is on the way by which it
is going to be resumed. The marks of other statements are untouched. This is shown for each way of
putting statements together, on the assumption that it holds of the parts; the induction is on the
depth of the interpreter. -/

namespace CooperativeTasks

variable {α β : Type}

open Positions

namespace Positions

namespace Passage

/-- What a signal says about the marks. After a fault nobody asks for them any more. -/
def Raises (passage : Passage) (held : Mark → Prop) (before after : Positions) : Signal → Prop
  | .suspend true => passage.Pauses held before after
  | .suspend false => passage.yields ∧ passage.Ends held before after
  | .fault _ => True
  | _ => passage.Ends held before after

variable {passage : Passage} {held held' : Mark → Prop} {before middle after : Positions}
  {signal : Signal}

theorem Ends.raises (ends : passage.Ends held before after)
    (goesOn : ∀ fromLoop, signal ≠ .suspend fromLoop) :
    passage.Raises held before after signal := by
  cases signal with
  | suspend fromLoop => exact absurd rfl (goesOn fromLoop)
  | fault cause => trivial
  | returning value => exact ends
  | breakLoop => exact ends
  | continueLoop => exact ends

theorem Raises.follow {whole : Mark → Prop} (raises : passage.Raises held' middle after signal)
    (ends : passage.Ends held before middle)
    (covers : ∀ mark, whole mark → held mark ∨ held' mark) :
    passage.Raises whole before after signal := by
  match signal with
  | .suspend true => exact Leaves.follow raises ends covers
  | .suspend false => exact ⟨raises.1, Leaves.follow raises.2 ends covers⟩
  | .fault _ => trivial
  | .returning _ => exact Leaves.follow raises ends covers
  | .breakLoop => exact Leaves.follow raises ends covers
  | .continueLoop => exact Leaves.follow raises ends covers

theorem Raises.widen {wide : Passage} (raises : passage.Raises held before after signal)
    (inside : ∀ mark, passage.inside mark → wide.inside mark)
    (yields : passage.yields → wide.yields) (holds : ∀ mark, held' mark → held mark)
    (rests : passage.Pauses held before after →
      ∀ mark, passage.rests after mark → wide.rests after mark) :
    wide.Raises held' before after signal := by
  match signal with
  | .suspend true => exact Leaves.widen raises inside holds (rests raises)
  | .suspend false => exact ⟨yields raises.1, Ends.widen raises.2 inside holds⟩
  | .fault _ => trivial
  | .returning _ => exact Ends.widen raises inside holds
  | .breakLoop => exact Ends.widen raises inside holds
  | .continueLoop => exact Ends.widen raises inside holds

/-! ### The parts of a program -/

def ofStatement (path : Path) (statement : Stmt) : Passage where
  inside := Under path
  yields := True
  rests positions := positions.Held path statement

def ofList (path : Path) (list : List Stmt) : Passage where
  inside := Within path list
  yields := False
  rests positions := positions.Suspended path list

/-- The iterations of a loop, each with the update at its end. -/
def ofLoop (path : Path) (body : List Stmt) : Passage where
  inside mark := Within (.body :: path) body mark ∨ Under (.update :: path) mark
  yields := False
  rests positions := positions.Suspended (.body :: path) body

/-- A part of a loop's head, which is not suspended. -/
def ofPart (path : Path) : Passage where
  inside := Under path
  yields := False
  rests _ _ := False

end Passage

/-- The marks that a list takes away when it is executed from an index on. -/
def HeldFrom (positions : Positions) (path : Path) (list : List Stmt) (index : Nat) (mark : Mark) :
    Prop :=
  mark = .resume (.of path list) ∨
    ∃ next, list[index]? = some next ∧ positions.Held (.item index :: path) next mark

end Positions

/-- However the code has come to an end, it has left the marks as it should. -/
def Outcome.Passes (passage : Passage) (held : Mark → Prop) (before : Positions) :
    Outcome α → Prop
  | .done _ after => passage.Ends held before after.executor.positions
  | .raised signal after => passage.Raises held before after.executor.positions signal
  | .halted _ => True

namespace Outcome.Passes

variable {passage : Passage} {held held' : Mark → Prop} {before middle : Positions}
  {outcome : Outcome α}

theorem follow {whole : Mark → Prop} (passes : outcome.Passes passage held' middle)
    (ends : passage.Ends held before middle)
    (covers : ∀ mark, whole mark → held mark ∨ held' mark) :
    outcome.Passes passage whole before := by
  cases outcome with
  | done value after => exact Passage.Leaves.follow passes ends covers
  | raised signal after => exact Passage.Raises.follow passes ends covers
  | halted moment => trivial

theorem widen {wide : Passage} (passes : outcome.Passes passage held before)
    (inside : ∀ mark, passage.inside mark → wide.inside mark)
    (yields : passage.yields → wide.yields) (holds : ∀ mark, held' mark → held mark)
    (rests : ∀ after, passage.Pauses held before after →
      ∀ mark, passage.rests after mark → wide.rests after mark) :
    outcome.Passes wide held' before := by
  cases outcome with
  | done value after => exact Passage.Ends.widen passes inside holds
  | raised signal after => exact Passage.Raises.widen passes inside yields holds (rests _)
  | halted moment => trivial

end Outcome.Passes

/-- From any tidy table of positions, the action takes away the marks that are held there. -/
def Act.Passes (passage : Passage) (holds : Positions → Mark → Prop) (action : Act α) : Prop :=
  ∀ session, session.executor.positions.Tidy →
    (action session).Passes passage (holds session.executor.positions) session.executor.positions

namespace Act

variable {passage : Passage} {held : Mark → Prop} {before : Positions} {session : Session}

theorem bind_passes {first : Act α} {next : α → Act β}
    (head : (first session).Passes passage held before)
    (tail : ∀ value after, passage.Ends held before after.executor.positions →
      (next value after).Passes passage held before) :
    ((first >>= next) session).Passes passage held before := by
  refine bind_elim ?_ ?_ ?_
  · intro value after run
    rw [run] at head
    exact tail value after head
  · intro signal after run
    rw [run] at head
    exact head
  · exact fun _ _ => trivial

theorem quiet_passes {shallow first : Act α} (quiet : Deepens .expression shallow first)
    (done : ∀ value after, first session = .done value after →
      after.executor.positions = session.executor.positions →
        passage.Ends held before after.executor.positions) :
    (first session).Passes passage held before := by
  have kept := quiet.brackets session
  have faults := quiet.faultsOnly rfl session
  cases run : first session with
  | done value after =>
      rw [run] at kept
      exact done value after run (Session.Kept.positions kept rfl)
  | raised signal after =>
      rw [run] at faults
      obtain ⟨cause, rfl⟩ := faults
      trivial
  | halted moment => trivial

theorem quiet_bind_passes {shallow first : Act α} {next : α → Act β}
    (quiet : Deepens .expression shallow first)
    (tail : ∀ value after, first session = .done value after →
      after.executor.positions = session.executor.positions →
        (next value after).Passes passage held before) :
    ((first >>= next) session).Passes passage held before := by
  have kept := quiet.brackets session
  have faults := quiet.faultsOnly rfl session
  refine bind_elim ?_ ?_ ?_
  · intro value after run
    rw [run] at kept
    exact tail value after run (Session.Kept.positions kept rfl)
  · intro signal after run
    rw [run] at faults
    obtain ⟨cause, rfl⟩ := faults
    trivial
  · exact fun _ _ => trivial

end Act

namespace Interpreter

variable {interpreter : Interpreter}

/-! ### The ends of a list -/

section

variable {path : Path} {list : List Stmt} {held held' : Mark → Prop} {before : Positions}
  {left : Session} (holds : ∀ mark, held' mark → mark = .resume (.of path list) ∨ held mark)

include holds

theorem list_ends (ends : (Passage.ofList path list).Ends held before left.executor.positions) :
    (Passage.ofList path list).Ends held' before
      (left.positioned (Positions.clear (.of path list))).executor.positions where
  tidy := ends.tidy.clear _
  outside mark away := (reads_cleared ends.tidy away).trans (ends.outside mark away)
  present mark bears := by
    obtain ⟨other, still⟩ := bears_clear ends.tidy bears
    obtain ⟨earlier, apart⟩ := ends.present still
    exact .inr ⟨earlier, fun member => (holds mark member).elim other apart⟩

theorem list_pauses (present : list ≠ []) {index : Nat} (within : index ≤ list.length)
    (leaves : (Passage.ofList path list).Leaves held
      ((left.executor.positions.set (.of path list) index).Suspended path list) before
        left.executor.positions) :
    (Passage.ofList path list).Pauses held' before
      (left.positioned (Positions.set (.of path list) index)).executor.positions := by
  have own := Positions.reads_set (.of path list) index left.executor.positions
  have noted : (left.executor.positions.set (.of path list) index).get? (.of path list) =
      some index := (own (.resume (.of path list))).trans (if_pos rfl)
  constructor
  · refine leaves.tidy.set ?_ index
    rw [key_eq present]
    exact nofun
  · intro mark away
    refine ((own mark).trans (if_neg ?_)).trans (leaves.outside mark away)
    rintro rfl
    rw [key_eq present] at away
    exact away (List.suffix_refl path)
  · intro mark bears
    by_cases same : mark = .resume (.of path list)
    · rw [same]
      exact .inl (.own noted within)
    · refine (leaves.present mark ((bears_set bears).resolve_left same)).imp_right ?_
      exact fun earlier => ⟨earlier.1, fun member => (holds mark member).elim same earlier.2⟩

end

/-- A list makes of what its statement has done what it should do itself. -/
theorem listEnding_passes {path : Path} {list rest : List Stmt} {index : Nat} {statement : Stmt}
    (here : list.drop index = statement :: rest) {before : Positions} {outcome : Outcome Unit}
    (executed : outcome.Passes (Passage.ofStatement (.item index :: path) statement)
      (before.Held (.item index :: path) statement) before)
    (goesOn : (interpreter.execFrom (.of path list) path (index + 1) rest).Passes
      (Passage.ofList path list) fun positions => positions.HeldFrom path list (index + 1)) :
    (interpreter.listEnding (.of path list) path index rest outcome).Passes
      (Passage.ofList path list) (before.HeldFrom path list index) before := by
  have present := ne_nil_of_drop here
  have current := getElem?_of_drop here
  have within : index < list.length := (List.getElem?_eq_some_iff.mp current).1
  have inside (mark : Mark) (under : Under (.item index :: path) mark) : Within path list mark :=
    (within_of_under present under).1
  have holds (mark : Mark) (member : before.HeldFrom path list index mark) :
      mark = .resume (.of path list) ∨ before.Held (.item index :: path) statement mark := by
    refine member.imp_right ?_
    rintro ⟨next, same, held⟩
    cases current.symm.trans same
    exact held
  have broken (signal : Signal) (after : Session) (breaks : ∀ fromLoop, signal ≠ .suspend fromLoop)
      (ends : (Passage.ofStatement (.item index :: path) statement).Ends
        (before.Held (.item index :: path) statement) before after.executor.positions) :
      (interpreter.listEnding (.of path list) path index rest (.raised signal after)).Passes
        (Passage.ofList path list) (before.HeldFrom path list index) before := by
    have wide : (Passage.ofList path list).Ends (before.Held (.item index :: path) statement) before
        after.executor.positions := ends.widen inside fun _ => id
    rw [listEnding_broken interpreter breaks]
    exact (list_ends holds wide).raises breaks
  match outcome with
  | .halted _ => trivial
  | .done () after =>
      have ends : (Passage.ofList path list).Ends (before.Held (.item index :: path) statement)
          before after.executor.positions := Passage.Ends.widen executed inside fun _ => id
      refine (goesOn after ends.tidy).follow ends fun mark member => ?_
      exact (holds mark member).elim (fun own => .inr (.inl own)) .inl
  | .raised (.fault _) _ => trivial
  | .raised (.returning value) after => exact broken (.returning value) after nofun executed
  | .raised .breakLoop after => exact broken .breakLoop after nofun executed
  | .raised .continueLoop after => exact broken .continueLoop after nofun executed
  | .raised (.suspend false) _ =>
      refine list_pauses holds present (Nat.succ_le_of_lt within) ?_
      exact Passage.Leaves.widen executed.2 inside (fun _ => id) fun _ => False.elim
  | .raised (.suspend true) after =>
      -- the way to the marks of the statement now leads through the mark of the list
      refine list_pauses holds present (Nat.le_of_lt within) ?_
      refine Passage.Leaves.widen executed inside (fun _ => id) fun mark held => ?_
      have located : ListKey.of path list ≠ .empty := by
        rw [key_eq present]
        exact nofun
      have reads := Positions.reads_set (.of path list) index after.executor.positions
      refine .item ((reads (.resume (.of path list))).trans (if_pos rfl)) current ?_
      refine Held.alike executed.tidy (executed.tidy.set located index) held fun key under => ?_
      refine (reads (.resume key)).trans (if_neg ?_)
      rw [key_eq present]
      exact (within_of_under present under).2

/-- The interpreter is put together as all are, and the statements that it executes leave the marks
as they should. -/
structure Marking (interpreter : Interpreter) : Prop where
  itself : interpreter.DeepensTo interpreter
  exec : ∀ path statement, (interpreter.exec path statement).Passes
    (Passage.ofStatement path statement) fun positions => positions.Held path statement

namespace Marking

variable (marking : interpreter.Marking)

include marking

/-! ### Lists -/

theorem execFrom (path : Path) (list : List Stmt) {rest : List Stmt} {index : Nat}
    (here : list.drop index = rest) :
    (interpreter.execFrom (.of path list) path index rest).Passes (Passage.ofList path list)
      fun positions => positions.HeldFrom path list index := by
  induction rest generalizing index with
  | nil =>
      intro session tidy
      have nothing : (Passage.ofList path list).Ends (fun _ => False) session.executor.positions
          session.executor.positions := .refl tidy fun _ => id
      refine list_ends ?_ nothing
      rintro mark (own | ⟨next, present, _⟩)
      · exact .inl own
      · rw [List.getElem?_eq_none (List.drop_eq_nil_iff.mp here)] at present
        cases present
  | cons statement rest ih =>
      intro session tidy
      rw [execFrom_cons]
      exact listEnding_passes here (marking.exec _ statement session tidy)
        (ih (drop_succ_of_drop here))

theorem execBlock (path : Path) (list : List Stmt) :
    (interpreter.execBlock path list).Passes (Passage.ofList path list)
      fun positions => positions.Suspended path list := by
  intro session tidy
  rw [execBlock_apply]
  refine (marking.execFrom path list rfl session tidy).widen (fun _ => id) id ?_
    fun _ _ _ => id
  intro mark suspended
  cases suspended with
  | own found _ => exact .inl rfl
  | item found present held =>
      rw [found]
      exact .inr ⟨_, present, held⟩

/-! ### Branches -/

omit marking in
theorem branch {path : Path} {statement : Stmt} {turn : Turn} {list : List Stmt}
    {before : Positions} {outcome : Outcome Unit}
    (passes : outcome.Passes (Passage.ofList (turn :: path) list)
      (before.Suspended (turn :: path) list) before)
    (goes : ∀ after : Positions, after.Tidy →
      (∀ mark, ¬ Within (turn :: path) list mark → after.reads mark = before.reads mark) →
        after.Goes path statement turn list)
    (holds : ∀ mark, before.Held path statement mark → before.Suspended (turn :: path) list mark) :
    outcome.Passes (Passage.ofStatement path statement) (before.Held path statement) before :=
  passes.widen (fun _ => under_of_within) (fun _ => trivial) holds fun after pauses _ suspended =>
    (goes after pauses.tidy pauses.outside).held suspended

theorem execIf (path : Path) (condition : Expr) (first second : List Stmt) :
    (interpreter.execIf path condition first second).Passes
      (Passage.ofStatement path (.ifThen condition first second)) fun positions =>
        positions.Held path (.ifThen condition first second) := by
  intro session tidy
  have early (start : Session) (same : start.executor.positions = session.executor.positions)
      (holds : ∀ mark,
        session.executor.positions.Held path (.ifThen condition first second) mark →
          session.executor.positions.Suspended (.thenBranch :: path) first mark) :
      (interpreter.execBlock (.thenBranch :: path) first start).Passes
        (Passage.ofStatement path (.ifThen condition first second))
        (session.executor.positions.Held path (.ifThen condition first second))
        session.executor.positions := by
    have executed := marking.execBlock (.thenBranch :: path) first start (same ▸ tidy)
    rw [same] at executed
    exact branch executed (fun _ _ _ => .of (.thenBranch ..)) holds
  have late (start : Session) (same : start.executor.positions = session.executor.positions)
      (unmarked : session.executor.positions.get? (.of (.thenBranch :: path) first) = none) :
      (interpreter.execBlock (.elseBranch :: path) second start).Passes
        (Passage.ofStatement path (.ifThen condition first second))
        (session.executor.positions.Held path (.ifThen condition first second))
        session.executor.positions := by
    have executed := marking.execBlock (.elseBranch :: path) second start (same ▸ tidy)
    rw [same] at executed
    refine branch executed (fun after tidy' outside => ⟨.elseBranch .., ?_⟩) fun mark held => ?_
    · rintro _ _ ⟨⟩
      refine (get?_alike tidy tidy' fun _ => ?_).trans unmarked
      have apart : Turn.thenBranch ≠ .elseBranch := nofun
      refine outside (.resume (.located (.thenBranch :: path))) ?_
      exact turns_apart apart (List.suffix_refl _)
    · exact held.ifThen.elim (fun impossible => (not_suspended unmarked _ impossible).elim) (·.2)
  rw [Interpreter.execIf, Act.executor_bind]
  dsimp only
  -- A mark of the first branch decides before one of the second does, and the condition is not
  -- tested then.
  split
  · rename_i marked
    refine early session rfl fun mark held => held.ifThen.resolve_right ?_
    rintro ⟨unmarked, _⟩
    rw [unmarked] at marked
    cases marked
  · rename_i unmarked
    have unmarked := Option.not_isSome_iff_eq_none.mp unmarked
    split
    · exact late session rfl unmarked
    · rename_i unmarked'
      have unmarked' := Option.not_isSome_iff_eq_none.mp unmarked'
      refine Act.quiet_bind_passes (marking.itself.related.evalCondition condition)
        fun truth after _ same => ?_
      cases truth with
      | true =>
          refine early after same fun mark held => held.ifThen.resolve_right ?_
          exact fun suspended => not_suspended unmarked' mark suspended.2
      | false => exact late after same unmarked

/-! ### Loops -/

theorem execBody (path : Path) (body : List Stmt) :
    (interpreter.execBody path body).Passes (Passage.ofLoop path body) fun positions =>
      positions.Suspended (.body :: path) body := by
  intro session tidy
  have executed : (interpreter.execBlock (.body :: path) body session).Passes
      (Passage.ofLoop path body) (session.executor.positions.Suspended (.body :: path) body)
      session.executor.positions :=
    (marking.execBlock (.body :: path) body session tidy).widen (fun _ => .inl) id (fun _ => id)
      fun _ _ _ => id
  rw [Interpreter.execBody, Act.attempt_bind]
  cases run : interpreter.execBlock (.body :: path) body session with
  | done value after =>
      rw [run] at executed
      exact executed
  | halted moment => trivial
  | raised signal after =>
      rw [run] at executed
      cases signal <;> exact executed

theorem execPart (path : Path) (part : Option Stmt) :
    (interpreter.execPart path part).Passes (Passage.ofPart path) fun _ _ => False := by
  intro session tidy
  cases part with
  | none => exact Passage.Leaves.refl tidy fun _ => id
  | some statement =>
      have executed := marking.exec path statement session tidy
      rw [Interpreter.execPart, Act.faulting]
      cases run : interpreter.exec path statement session with
      | done value after =>
          rw [run] at executed
          exact Passage.Ends.widen executed (fun _ => id) fun _ => False.elim
      | raised signal after => trivial
      | halted moment => trivial

theorem endIteration (passage : Passage) :
    interpreter.endIteration.Passes passage fun _ _ => False := by
  intro session tidy
  rw [Interpreter.endIteration, Act.executor_bind]
  split
  · split
    · refine Act.quiet_bind_passes (.note _) fun _ after _ same => ?_
      change passage.Pauses _ _ after.executor.positions
      rw [same]
      exact .refl tidy fun _ => id
    · exact Passage.Leaves.refl tidy fun _ => id
  · rw [Act.scheduler_bind]
    split
    · refine Act.quiet_passes marking.itself.related.runOneCycle fun _ after _ same => ?_
      rw [same]
      exact .refl tidy fun _ => id
    · exact Passage.Leaves.refl tidy fun _ => id

omit marking in
theorem unmarked_of_not_entersBody {path : Path} {condition : Option Expr} {body : List Stmt}
    {session after : Session}
    (run : interpreter.entersBody path condition body session = .done false after) :
    session.executor.positions.get? (.of (.body :: path) body) = none := by
  unfold Interpreter.entersBody at run
  rw [Act.executor_bind] at run
  split at run
  · cases run
  · rename_i unmarked
    exact Option.not_isSome_iff_eq_none.mp unmarked

theorem iteration_ends (path : Path) (update : Option Stmt) (body : List Stmt) :
    Act.Passes (Passage.ofLoop path body) (fun _ _ => False) (do
      interpreter.execPart (.update :: path) update
      interpreter.endIteration
      return some () : Act (Option Unit)) := by
  intro session tidy
  have updates : (interpreter.execPart (.update :: path) update session).Passes
      (Passage.ofLoop path body) (fun _ => False) session.executor.positions :=
    (marking.execPart (.update :: path) update session tidy).widen (fun _ => .inr) id
      (fun _ => id) fun _ _ _ => False.elim
  refine Act.bind_passes updates fun _ between ends => ?_
  have rest : ((interpreter.endIteration >>= fun _ => Pure.pure (some ())) between).Passes
      (Passage.ofLoop path body) (fun _ => False) between.executor.positions :=
    Act.bind_passes (marking.endIteration _ between ends.tidy) fun _ _ ended => ended
  exact rest.follow ends fun _ => .inl

theorem iteration (path : Path) (condition : Option Expr) (update : Option Stmt)
    (body : List Stmt) (state : Unit) :
    (interpreter.iteration path condition update body state).Passes (Passage.ofLoop path body)
      fun positions => positions.Suspended (.body :: path) body := by
  intro session tidy
  refine Act.quiet_bind_passes (marking.itself.related.entersBody path condition body)
    fun enters start run same => ?_
  cases enters with
  | false =>
      have unmarked := unmarked_of_not_entersBody run
      rw [if_neg Bool.false_ne_true]
      change (Passage.ofLoop path body).Ends _ _ start.executor.positions
      rw [same]
      exact .refl tidy (not_suspended unmarked)
  | true =>
      have executed := marking.execBody path body start (same ▸ tidy)
      rw [same] at executed
      rw [if_pos rfl]
      refine Act.bind_passes executed fun finished after ends => ?_
      cases finished with
      | false => exact ends
      | true =>
          rw [if_pos rfl]
          exact (marking.iteration_ends path update body after ends.tidy).follow ends fun _ => .inl

theorem execLoop (path : Path) (condition : Option Expr) (update : Option Stmt)
    (body : List Stmt) :
    (interpreter.execLoop path condition update body).Passes (Passage.ofLoop path body)
      fun positions => positions.Suspended (.body :: path) body := by
  have turns (count : Nat) :
      Act.Passes (Passage.ofLoop path body)
        (fun positions => positions.Suspended (.body :: path) body)
        (Act.iterate count (interpreter.iteration path condition update body) ()) := by
    induction count with
    | zero => exact fun _ _ => trivial
    | succ count ih =>
        intro session tidy
        rw [Act.iterate_succ]
        refine Act.bind_passes (marking.iteration path condition update body () session tidy)
          fun next after ends => ?_
        cases next with
        | none => exact ends
        | some next => exact (ih after ends.tidy).follow ends fun _ => .inl
  exact turns interpreter.turns

omit marking in
theorem loop_inside {path : Path} {body : List Stmt} {mark : Mark}
    (inside : (Passage.ofLoop path body).inside mark) : Under path mark :=
  inside.elim under_of_within under_of_under

theorem whileLoop (path : Path) (condition : Expr) (body : List Stmt) :
    (interpreter.execLoop path (some condition) none body).Passes
      (Passage.ofStatement path (.whileLoop condition body)) fun positions =>
        positions.Held path (.whileLoop condition body) := by
  intro session tidy
  refine (marking.execLoop path (some condition) none body session tidy).widen
    (fun _ => loop_inside) (fun _ => trivial) (fun _ held => held.whileLoop) ?_
  intro after _ mark suspended
  have goes : after.Goes path (.whileLoop condition body) .body body := .of (.whileLoop ..)
  exact goes.held suspended

end Marking

section

variable {path : Path} {init : Option Stmt} {condition : Option Expr} {update : Option Stmt}
  {body : List Stmt} {held : Mark → Prop} {before start : Positions}
  (outside : ∀ mark, ¬ Under path mark → start.reads mark = before.reads mark)
  (present : ∀ mark, start.Bears mark →
    mark = .entered (.of (.body :: path) body) ∨ before.Bears mark)
  (holds : ∀ mark, before.Suspended (.body :: path) body mark → held mark)

include outside present holds

theorem forLoop_leaves {left : Mark → Prop} {after : Positions}
    (leaves : (Passage.ofLoop path body).Leaves held left start after) :
    (Passage.ofStatement path (.forLoop init condition update body)).Leaves
      (before.Held path (.forLoop init condition update body))
      (fun mark => mark = .entered (.of (.body :: path) body) ∨ left mark) before after where
  tidy := leaves.tidy
  outside mark away :=
    (leaves.outside mark fun within => away (Marking.loop_inside within)).trans (outside mark away)
  present mark bears := by
    by_cases own : mark = .entered (.of (.body :: path) body)
    · exact .inl (.inl own)
    · refine (leaves.present mark bears).imp .inr ?_
      rintro ⟨still, apart⟩
      refine ⟨(present mark still).resolve_left own, fun member => ?_⟩
      exact member.forLoop.elim own fun suspended => apart (holds mark suspended)

theorem forLoop_ends {after : Session}
    (ends : (Passage.ofLoop path body).Ends held start after.executor.positions) :
    (Passage.ofStatement path (.forLoop init condition update body)).Ends
      (before.Held path (.forLoop init condition update body)) before
      (leftLoop (.of (.body :: path) body) init after).executor.positions := by
  have whole : (Passage.ofStatement path (.forLoop init condition update body)).Leaves _ _ _ _ :=
    forLoop_leaves outside present holds ends
  refine ⟨ends.tidy.exitLoop _, fun mark away => ?_, fun mark bears => ?_⟩
  · refine ((reads_leftLoop ends.tidy mark).trans (if_neg ?_)).trans (whole.outside mark away)
    rintro rfl
    exact away (entered_body path body).1
  · obtain ⟨other, still⟩ := bears_exitLoop ends.tidy bears
    exact .inr ((whole.present mark still).resolve_left fun left => left.elim other id)

theorem forEnding_passes {outcome : Outcome Unit}
    (passes : outcome.Passes (Passage.ofLoop path body) held start) :
    (forEnding (.of (.body :: path) body) init outcome).Passes
      (Passage.ofStatement path (.forLoop init condition update body))
      (before.Held path (.forLoop init condition update body)) before := by
  have left (signal : Signal) (goesOn : ∀ fromLoop, signal ≠ .suspend fromLoop) (after : Session) :
      forEnding (.of (.body :: path) body) init (.raised signal after) =
        .raised signal (leftLoop (.of (.body :: path) body) init after) :=
    forEnding_of (fun fromLoop same => goesOn fromLoop (Except.error.inj same)) after
  have broken (signal : Signal) (goesOn : ∀ fromLoop, signal ≠ .suspend fromLoop) (after : Session)
      (ends : (Passage.ofLoop path body).Ends held start after.executor.positions) :
      (forEnding (.of (.body :: path) body) init (.raised signal after)).Passes
        (Passage.ofStatement path (.forLoop init condition update body))
        (before.Held path (.forLoop init condition update body)) before := by
    rw [left signal goesOn after]
    exact (forLoop_ends outside present holds ends).raises goesOn
  match outcome with
  | .halted _ => trivial
  | .done () after =>
      have goesOn (fromLoop : Bool) :
          (Except.ok () : Except Signal Unit) ≠ .error (.suspend fromLoop) := nofun
      have ended : forEnding (.of (.body :: path) body) init (.done () after) =
          .done () (leftLoop (.of (.body :: path) body) init after) := forEnding_of goesOn after
      rw [ended]
      exact forLoop_ends outside present holds passes
  | .raised (.fault cause) after =>
      rw [left (.fault cause) nofun after]
      trivial
  | .raised (.returning value) after => exact broken (.returning value) nofun after passes
  | .raised .breakLoop after => exact broken .breakLoop nofun after passes
  | .raised .continueLoop after => exact broken .continueLoop nofun after passes
  | .raised (.suspend false) _ => exact passes.1.elim
  | .raised (.suspend true) after =>
      refine (forLoop_leaves outside present holds passes).widen (fun _ => id) (fun _ => id) ?_
      rintro mark (rfl | suspended)
      · exact .entered
      · have goes : after.executor.positions.Goes path (.forLoop init condition update body) .body
            body := .of (.forLoop ..)
        exact goes.held suspended

end

namespace Marking

variable (marking : interpreter.Marking)

include marking

theorem execFor (path : Path) (init : Option Stmt) (condition : Option Expr)
    (update : Option Stmt) (body : List Stmt) :
    (interpreter.execFor path init condition update body).Passes
      (Passage.ofStatement path (.forLoop init condition update body)) fun positions =>
        positions.Held path (.forLoop init condition update body) := by
  intro session tidy
  -- A loop that is past its initialiser goes on; otherwise its own mark is the one that is added.
  cases entered : session.executor.positions.loopEntered (.of (.body :: path) body) with
  | true =>
      rw [execFor_entered entered]
      refine forEnding_passes (fun _ _ => rfl) (fun _ => .inr) (fun _ => id) ?_
      exact marking.execLoop path condition update body session tidy
  | false =>
      have begun := marking.execPart (.init :: path) init session tidy
      rw [execFor_fresh entered]
      cases run : interpreter.execPart (.init :: path) init session with
      | halted moment => trivial
      | raised signal after =>
          have quiet : (interpreter.execPart (.init :: path) init).FaultsOnly :=
            Disciplined.execPart_faultsOnly (.init :: path) init
          have faults := quiet session
          rw [run] at faults
          obtain ⟨cause, rfl⟩ := faults
          trivial
      | done value after =>
          rw [run] at begun
          have ends : (Passage.ofPart (.init :: path)).Ends _ _ _ := begun
          have enters := ends.tidy.enterLoop (.of (.body :: path) body)
          have reads :=
            Positions.reads_enterLoop (.of (.body :: path) body) after.executor.positions
          refine forEnding_passes ?_ ?_ ?_
            (marking.execLoop path condition update body (after.positioned _) enters)
          · intro mark away
            refine ((reads mark).trans (if_neg ?_)).trans (ends.outside mark ?_)
            · rintro rfl
              exact away (entered_body path body).1
            · exact fun under => away (under_of_under under)
          · intro mark bears
            exact (bears_enterLoop bears).imp_right fun still => (ends.present still).1
          · intro mark suspended
            refine suspended.alike tidy enters fun key within => ?_
            have apart : Turn.body ≠ .init := nofun
            refine ((reads (.resume key)).trans (if_neg nofun)).trans (ends.outside _ ?_)
            match key with
            | .empty => exact within.elim
            | .located place => exact fun under => turns_apart apart within under.1

/-! ### Statements -/

omit marking in
theorem simple {action : Act Unit} (quiet : Deepens .expression action action)
    (path : Path) (statement : Stmt) (simple : statement.hasLists = false) :
    action.Passes (Passage.ofStatement path statement) fun positions =>
      positions.Held path statement := by
  intro session tidy
  refine Act.quiet_passes quiet fun _ after _ same => ?_
  rw [same]
  exact .refl tidy fun _ => not_held simple

theorem perform (path : Path) (statement : Stmt) :
    (interpreter.perform path statement).Passes (Passage.ofStatement path statement)
      fun positions => positions.Held path statement := by
  have still (statement : Stmt) (session : Session) (tidy : session.executor.positions.Tidy)
      (simple : statement.hasLists = false) :
      (Passage.ofStatement path statement).Ends (session.executor.positions.Held path statement)
        session.executor.positions session.executor.positions :=
    .refl tidy fun _ => not_held simple
  have itself := marking.itself
  -- Statements without lists leave the table alone; the others pass on what their lists leave.
  cases statement with
  | letVar name value =>
      refine simple (.bind (itself.eval value) fun value => ?_) path _ rfl
      exact .bind (Deepens.bindFutureTo _ value) fun _ => .move (.write (.define name value))
  | assign target value =>
      refine simple (.bind (itself.eval value) fun value => ?_) path _ rfl
      exact .bind (Deepens.bindFutureTo _ value) fun _ => Deepens.writePlace target value
  | expression value =>
      exact simple (.bind (itself.eval value) fun _ => .pure ()) path _ rfl
  | print value =>
      exact simple (.bind (itself.eval value) fun _ => .move (.print _)) path _ rfl
  | returning value =>
      intro session tidy
      cases value with
      | none => exact still (.returning none) session tidy rfl
      | some value =>
          refine Act.quiet_bind_passes (itself.eval value) fun _ after _ same => ?_
          rw [← same] at tidy ⊢
          exact still (.returning (some value)) after tidy rfl
  | yield =>
      intro session tidy
      rw [Interpreter.perform, Act.executor_bind]
      split
      · exact ⟨trivial, still .yield session tidy rfl⟩
      · exact simple itself.related.runOneCycle path .yield rfl session tidy
  | ifThen condition first second => exact marking.execIf path condition first second
  | whileLoop condition body => exact marking.whileLoop path condition body
  | forLoop init condition update body => exact marking.execFor path init condition update body
  | block body =>
      intro session tidy
      refine branch (marking.execBlock (.body :: path) body session tidy) ?_
        fun _ held => held.block
      exact fun _ _ _ => .of (.block body)
  | breakLoop => exact fun session tidy => still .breakLoop session tidy rfl
  | continueLoop => exact fun session tidy => still .continueLoop session tidy rfl

theorem execStmt (path : Path) (statement : Stmt) :
    (interpreter.execStmt path statement).Passes (Passage.ofStatement path statement)
      fun positions => positions.Held path statement := by
  intro session tidy
  refine Act.quiet_bind_passes .moment fun _ start _ same => ?_
  rw [← same] at tidy ⊢
  have performed := marking.perform path statement start tidy
  rw [Act.attempt_bind]
  cases run : interpreter.perform path statement start with
  | halted moment => trivial
  | done value after =>
      rw [run] at performed
      refine Act.quiet_bind_passes .moment fun _ last _ later => ?_
      change Passage.Ends _ _ _ last.executor.positions
      rw [later]
      exact performed
  | raised signal after =>
      rw [run] at performed
      refine Act.quiet_bind_passes .moment fun _ last _ later => ?_
      change Passage.Raises _ _ _ last.executor.positions signal
      rw [later]
      exact performed

end Marking

end Interpreter

theorem interpreter_marking (depth : Nat) : (interpreter depth).Marking := by
  induction depth with
  | zero => exact ⟨interpreter_deepens (Nat.le_refl 0), fun _ _ _ _ => trivial⟩
  | succ depth ih => exact ⟨interpreter_deepens (Nat.le_refl _), ih.execStmt⟩

end CooperativeTasks
