import CooperativeTasks.Proofs.SingleTask

set_option autoImplicit false

/-! Two runs of the same code, side by side.

The second run starts in a session that is a twin of the first one's, in some sense that tells
what running code can find out about a session. As long as the first run is not halted, the second
comes to the same result, in a twin again. The rules here are about the ways of putting statements
together; what makes two sessions twins is left open. -/

namespace CooperativeTasks

variable {α β σ : Type}

/-- What the second of two runs comes to if the first comes to an end. -/
inductive Outcome.Mirrored (twins : Session → Session → Prop) (good : α → Prop) :
    Outcome α → Outcome α → Prop where
  | done {value : α} {first second : Session} (well : good value) (same : twins first second) :
      Mirrored twins good (.done value first) (.done value second)
  | raised {signal : Signal} {first second : Session} (same : twins first second) :
      Mirrored twins good (.raised signal first) (.raised signal second)
  | halted {moment : Session} {outcome : Outcome α} : Mirrored twins good (.halted moment) outcome

/-- From twins, the second action comes to what the first comes to. -/
def Act.Mirrors (twins : Session → Session → Prop) (good : α → Prop) (action action' : Act α) : Prop :=
  ∀ first second, twins first second →
    Outcome.Mirrored twins good (action first) (action' second)

/-- What a statement comes to need not be any particular value. -/
abbrev Act.MirrorsAll (twins : Session → Session → Prop) (action action' : Act α) : Prop :=
  Act.Mirrors twins (fun _ => True) action action'

theorem Outcome.Mirrored.bind {between twins : Session → Session → Prop} {good : α → Prop}
    {good' : β → Prop} {action action' : Act α} {next next' : α → Act β} {first second : Session}
    (head : Outcome.Mirrored between good (action first) (action' second))
    (kept : ∀ first second, between first second → twins first second)
    (tail : ∀ value, good value → ∀ first second, between first second →
      Outcome.Mirrored twins good' (next value first) (next' value second)) :
    Outcome.Mirrored twins good' ((action >>= next) first) ((action' >>= next') second) := by
  rw [Act.bind_apply, Act.bind_apply]
  generalize action first = outcome at head
  generalize action' second = outcome' at head
  cases head with
  | done well after => exact tail _ well _ _ after
  | raised after => exact .raised (kept _ _ after)
  | halted => exact .halted

variable {twins : Session → Session → Prop}

namespace Act.Mirrors

variable {good : α → Prop} {good' : β → Prop}

theorem halt (action : Act α) : Mirrors twins good Act.halt action :=
  fun _ _ _ => .halted

theorem pure {value : α} (well : good value) :
    Mirrors twins good (Pure.pure value) (Pure.pure value) :=
  fun _ _ same => .done well same

theorem raise (signal : Signal) : Mirrors twins good (Act.raise signal) (Act.raise signal) :=
  fun _ _ same => .raised same

theorem fail (cause : Fault) : Mirrors twins good (Act.fail cause) (Act.fail cause) :=
  raise (.fault cause)

theorem ofExcept {result : Except Fault α} (well : ∀ value, result = .ok value → good value) :
    Mirrors twins good (Act.ofExcept result) (Act.ofExcept result) := by
  cases result with
  | ok value => exact pure (well value rfl)
  | error cause => exact fail cause

theorem ofAttempt (result : Except Signal α) :
    MirrorsAll twins (Act.ofAttempt result) (Act.ofAttempt result) := by
  cases result with
  | ok value => exact pure trivial
  | error signal => exact raise signal

theorem weaken {weaker : α → Prop} {action action' : Act α} (mirrors : Mirrors twins good action action')
    (implies : ∀ value, good value → weaker value) : Mirrors twins weaker action action' := by
  intro first second same
  have mirrored := mirrors first second same
  generalize action first = outcome at mirrored
  generalize action' second = outcome' at mirrored
  cases mirrored with
  | done well after => exact .done (implies _ well) after
  | raised after => exact .raised after
  | halted => exact .halted

theorem bind {action action' : Act α} {next next' : α → Act β}
    (head : Mirrors twins good action action')
    (tail : ∀ value, good value → Mirrors twins good' (next value) (next' value)) :
    Mirrors twins good' (action >>= next) (action' >>= next') :=
  fun first second same => (head first second same).bind (fun _ _ after => after) tail

theorem attempt {action action' : Act α} {next next' : Except Signal α → Act β}
    (head : Mirrors twins good action action')
    (tail : ∀ result, Mirrors twins good' (next result) (next' result)) :
    Mirrors twins good' (Act.attempt action >>= next) (Act.attempt action' >>= next') := by
  intro first second same
  have mirrored := head first second same
  rw [attempt_bind, attempt_bind]
  generalize action first = outcome at mirrored
  generalize action' second = outcome' at mirrored
  cases mirrored with
  | done _ after => exact tail _ _ _ after
  | raised after => exact tail _ _ _ after
  | halted => exact .halted

theorem faulting {action action' : Act α} (inner : Mirrors twins good action action') :
    Mirrors twins good (Act.faulting action) (Act.faulting action') := by
  intro first second same
  have mirrored := inner first second same
  unfold Act.faulting
  generalize action first = outcome at mirrored
  generalize action' second = outcome' at mirrored
  cases mirrored with
  | done well after => exact .done well after
  | raised after => exact .raised after
  | halted => exact .halted

theorem iterate {turns turns' : Nat} (fewer : turns ≤ turns') {action action' : σ → Act (Option σ)}
    (inner : ∀ state, MirrorsAll twins (action state) (action' state)) (state : σ) :
    MirrorsAll twins (Act.iterate turns action state) (Act.iterate turns' action' state) := by
  induction turns generalizing turns' state with
  | zero => exact fun _ _ _ => .halted
  | succ turns ih =>
      obtain ⟨more, rfl⟩ : ∃ more, turns' = more + 1 := ⟨turns' - 1, by omega⟩
      rw [Act.iterate_succ, Act.iterate_succ]
      refine bind (inner state) fun next _ => ?_
      cases next with
      | none => exact pure trivial
      | some next => exact ih (Nat.le_of_succ_le_succ fewer) next

theorem read {view view' : Session → α}
    (common : ∀ first second, twins first second → view' second = view first ∧ good (view first)) :
    Mirrors twins good (Act.read view) (Act.read view') := by
  intro first second same
  obtain ⟨equal, well⟩ := common first second same
  unfold Act.read
  rw [equal]
  exact .done well same

theorem update {change change' : Session → Session}
    (keeps : ∀ first second, twins first second → twins (change first) (change' second)) :
    MirrorsAll twins (Act.update change) (Act.update change') :=
  fun first second same => .done trivial (keeps first second same)

theorem executor {next next' : Executor → Act α}
    (tail : ∀ first second, twins first second →
      Mirrors twins good (next first.executor) (next' second.executor)) :
    Mirrors twins good (Act.executor >>= next) (Act.executor >>= next') :=
  fun first second same => tail first second same first second same

theorem scheduler {next next' : Scheduler → Act α}
    (tail : ∀ first second, twins first second →
      Mirrors twins good (next first.scheduler) (next' second.scheduler)) :
    Mirrors twins good (Act.scheduler >>= next) (Act.scheduler >>= next') :=
  fun first second same => tail first second same first second same

theorem note
    (unlimited : ∀ first second, twins first second → first.budget = none ∧ second.budget = none)
    (recorded : ∀ first second, twins first second →
      ∀ event event', twins (first.recorded event) (second.recorded event'))
    (event event' : Event) : MirrorsAll twins (Act.note event) (Act.note event') := by
  intro first second same
  obtain ⟨here, there⟩ := unlimited first second same
  rw [Act.note_unlimited here, Act.note_unlimited there]
  exact .done trivial (recorded first second same event event')

/-- Code that runs in other surroundings, from the point where they are made to the point where they
are left again. In between, sessions are twins in a sense of its own. -/
theorem enclosed {inner : Session → Session → Prop} {enter enter' : Session → Session}
    {action action' : Act α} {next next' : Except Signal α → Act β}
    (enters : ∀ first second, twins first second → inner (enter first) (enter' second))
    (body : MirrorsAll inner action action')
    (leaves : ∀ result first second, inner first second →
      Outcome.Mirrored twins good' (next result first) (next' result second)) :
    Mirrors twins good' (Act.update enter >>= fun _ => Act.attempt action >>= next)
      (Act.update enter' >>= fun _ => Act.attempt action' >>= next') := by
  intro first second same
  have mirrored := body _ _ (enters first second same)
  change Outcome.Mirrored twins good' ((Act.attempt action >>= next) (enter first))
    ((Act.attempt action' >>= next') (enter' second))
  rw [attempt_bind, attempt_bind]
  generalize action (enter first) = outcome at mirrored
  generalize action' (enter' second) = outcome' at mirrored
  cases mirrored with
  | done _ after => exact leaves _ _ _ after
  | raised after => exact leaves _ _ _ after
  | halted => exact .halted

end Act.Mirrors

/-! ### Expressions made of expressions -/

namespace Interpreter

variable {shallow deep : Interpreter}

theorem mirrors_evalAll {exprs : List Expr}
    (each : ∀ expr ∈ exprs, Act.MirrorsAll twins (shallow.eval expr) (deep.eval expr)) :
    Act.MirrorsAll twins (shallow.evalAll exprs) (deep.evalAll exprs) := by
  induction exprs with
  | nil => exact .pure trivial
  | cons expr rest ih =>
      refine .bind (each expr List.mem_cons_self) fun _ _ => ?_
      exact .bind (ih fun other member => each other (List.mem_cons_of_mem expr member)) fun _ _ =>
        .pure trivial

theorem mirrors_evalFields {fields : List (String × Expr)}
    (each : ∀ field ∈ fields, Act.MirrorsAll twins (shallow.eval field.2) (deep.eval field.2)) :
    Act.MirrorsAll twins (shallow.evalFields fields) (deep.evalFields fields) := by
  induction fields with
  | nil => exact .pure trivial
  | cons field rest ih =>
      refine .bind (each field List.mem_cons_self) fun _ _ => ?_
      exact .bind (ih fun other member => each other (List.mem_cons_of_mem field member)) fun _ _ =>
        .pure trivial

theorem mirrors_evalBinary {left right : Expr}
    (first : Act.MirrorsAll twins (shallow.eval left) (deep.eval left))
    (second : Act.MirrorsAll twins (shallow.eval right) (deep.eval right))
    (operator : BinaryOperator) :
    Act.MirrorsAll twins (shallow.evalBinary operator left right)
      (deep.evalBinary operator left right) := by
  have strict (leftValue : Value) :
      Act.MirrorsAll twins
        (do Act.ofExcept (operator.apply leftValue (← shallow.eval right)))
        (do Act.ofExcept (operator.apply leftValue (← deep.eval right))) :=
    .bind second fun _ _ => .ofExcept fun _ _ => trivial
  have truth (value : Value) :
      Act.MirrorsAll twins (Act.ofExcept value.truth) (Act.ofExcept value.truth) :=
    .ofExcept fun _ _ => trivial
  have decides : Act.MirrorsAll twins
      (do return Value.bool (← Act.ofExcept (← shallow.eval right).truth))
      (do return Value.bool (← Act.ofExcept (← deep.eval right).truth)) :=
    .bind second fun value _ => .bind (truth value) fun _ _ => .pure trivial
  refine .bind first fun leftValue _ => ?_
  cases operator with
  | and =>
      refine .bind (truth leftValue) fun holds _ => ?_
      cases holds with
      | true => exact decides
      | false => exact .pure trivial
  | or =>
      refine .bind (truth leftValue) fun holds _ => ?_
      cases holds with
      | true => exact .pure trivial
      | false => exact decides
  | _ => exact strict leftValue

/-! ### Drives made of turns -/

section Drives

variable (turn : ∀ swept, Act.MirrorsAll twins (shallow.turn swept) (deep.turn swept)) {id : TaskId}
  (finished : ∀ first second, twins first second →
    second.scheduler.isFinished id = first.scheduler.isFinished id)

include turn finished

theorem mirrors_turnUntil (swept : List TaskId) :
    Act.MirrorsAll twins (shallow.turnUntil id swept) (deep.turnUntil id swept) := by
  apply Act.Mirrors.scheduler
  intro first second same
  rw [finished first second same]
  split
  · exact .pure trivial
  · exact turn swept

theorem mirrors_runUntilComplete (turns : shallow.turns ≤ deep.turns)
    (finalize : Act.MirrorsAll twins (Act.finalize id) (Act.finalize id))
    (note : Act.MirrorsAll twins (Act.note (.unfinished id)) (Act.note (.unfinished id))) :
    Act.MirrorsAll twins (shallow.runUntilComplete id) (deep.runUntilComplete id) := by
  refine .bind (.iterate turns (mirrors_turnUntil turn finished) []) fun _ _ => ?_
  apply Act.Mirrors.scheduler
  intro first second same
  rw [finished first second same]
  split
  · exact finalize
  · exact note

end Drives

end Interpreter

/-! ### Statements made of statements -/

/-- What statement lists and loops find out about a session, and what they do to it. The variables
that loops take away with them are erasable ones. -/
structure Session.Twinning (erasable : String → Prop) (twins : Session → Session → Prop) : Prop where
  unlimited : ∀ {first second}, twins first second → first.budget = none ∧ second.budget = none
  positions : ∀ {first second}, twins first second →
    second.executor.positions = first.executor.positions
  positioned : ∀ {first second}, twins first second →
    ∀ change, twins (first.positioned change) (second.positioned change)
  recorded : ∀ {first second}, twins first second →
    ∀ event event', twins (first.recorded event) (second.recorded event')
  removed : ∀ {first second}, twins first second → ∀ name, erasable name →
    twins (first.showing (first.executor.scopes.modifyCurrent (Scope.remove name)) first.executor.output)
      (second.showing (second.executor.scopes.modifyCurrent (Scope.remove name))
        second.executor.output)

/-- All statements of a list are mirrored, wherever they stand. -/
def Interpreter.MirrorsEach (twins : Session → Session → Prop) (shallow deep : Interpreter)
    (statements : List Stmt) : Prop :=
  ∀ statement ∈ statements, ∀ path,
    Act.MirrorsAll twins (shallow.exec path statement) (deep.exec path statement)

namespace Session.Twinning

variable {erasable : String → Prop} (twinning : Session.Twinning erasable twins)
  {shallow deep : Interpreter}

include twinning

theorem moment : Act.MirrorsAll twins Act.moment Act.moment := by
  intro first second same
  obtain ⟨here, there⟩ := twinning.unlimited same
  rw [Act.moment_unlimited here, Act.moment_unlimited there]
  exact .done trivial same

theorem note (event event' : Event) : Act.MirrorsAll twins (Act.note event) (Act.note event') :=
  .note (fun _ _ => twinning.unlimited) (fun _ _ => twinning.recorded) event event'

theorem updatePositions (change : Positions → Positions) :
    Act.MirrorsAll twins (Act.updatePositions change) (Act.updatePositions change) :=
  .update fun _ _ same => twinning.positioned same change

theorem execFrom {statements : List Stmt} (each : shallow.MirrorsEach twins deep statements)
    (key : ListKey) (path : Path) (index : Nat) :
    Act.MirrorsAll twins (shallow.execFrom key path index statements)
      (deep.execFrom key path index statements) := by
  induction statements generalizing index with
  | nil => exact twinning.updatePositions _
  | cons statement rest ih =>
      refine .attempt (each statement List.mem_cons_self _) fun result => ?_
      have later := ih fun other member => each other (List.mem_cons_of_mem statement member)
      cases result with
      | ok value => exact later (index + 1)
      | error signal =>
          cases signal with
          | suspend fromLoop => exact .bind (twinning.updatePositions _) fun _ _ => .raise _
          | returning value => exact .bind (twinning.updatePositions _) fun _ _ => .raise _
          | breakLoop => exact .bind (twinning.updatePositions _) fun _ _ => .raise _
          | continueLoop => exact .bind (twinning.updatePositions _) fun _ _ => .raise _
          | fault cause => exact .bind (twinning.updatePositions _) fun _ _ => .raise _

theorem execBlock {statements : List Stmt} (each : shallow.MirrorsEach twins deep statements)
    (path : Path) :
    Act.MirrorsAll twins (shallow.execBlock path statements) (deep.execBlock path statements) := by
  refine .executor fun first second same => ?_
  dsimp only
  rw [twinning.positions same]
  refine twinning.execFrom ?_ _ path _
  intro statement member
  exact each statement (List.mem_of_mem_drop member)

omit twinning in
theorem evalCondition {condition : Expr}
    (eval : Act.MirrorsAll twins (shallow.eval condition) (deep.eval condition)) :
    Act.MirrorsAll twins (shallow.evalCondition condition) (deep.evalCondition condition) := by
  refine .bind eval fun value _ => ?_
  cases value.toBool? with
  | some truth => exact .pure trivial
  | none => exact .fail _

theorem execIf {condition : Expr} {thenBranch elseBranch : List Stmt}
    (eval : Act.MirrorsAll twins (shallow.eval condition) (deep.eval condition))
    (first : shallow.MirrorsEach twins deep thenBranch)
    (second : shallow.MirrorsEach twins deep elseBranch) (path : Path) :
    Act.MirrorsAll twins (shallow.execIf path condition thenBranch elseBranch)
      (deep.execIf path condition thenBranch elseBranch) := by
  refine .executor fun one other same => ?_
  dsimp only
  rw [twinning.positions same]
  split
  · exact twinning.execBlock first _
  · split
    · exact twinning.execBlock second _
    · refine .bind (evalCondition eval) fun holds _ => ?_
      cases holds with
      | true => exact twinning.execBlock first _
      | false => exact twinning.execBlock second _

theorem execBody {body : List Stmt} (each : shallow.MirrorsEach twins deep body) (path : Path) :
    Act.MirrorsAll twins (shallow.execBody path body) (deep.execBody path body) := by
  refine .attempt (twinning.execBlock each _) fun result => ?_
  cases result with
  | ok value => exact .pure trivial
  | error signal =>
      cases signal with
      | continueLoop => exact .pure trivial
      | breakLoop => exact .pure trivial
      | suspend fromLoop => exact .raise _
      | returning value => exact .raise _
      | fault cause => exact .raise _

omit twinning in
theorem execPart {part : Option Stmt} (each : shallow.MirrorsEach twins deep part.toList)
    (path : Path) :
    Act.MirrorsAll twins (shallow.execPart path part) (deep.execPart path part) := by
  cases part with
  | none => exact .pure trivial
  | some statement => exact .faulting (each statement (List.mem_singleton.mpr rfl) path)

section Loops

variable {condition : Option Expr} {update : Option Stmt} {body : List Stmt}
  (turns : shallow.turns ≤ deep.turns)
  (eval : ∀ expr, condition = some expr →
    Act.MirrorsAll twins (shallow.eval expr) (deep.eval expr))
  (updates : shallow.MirrorsEach twins deep update.toList)
  (each : shallow.MirrorsEach twins deep body)
  (ends : Act.MirrorsAll twins shallow.endIteration deep.endIteration)

include eval in
theorem entersBody (path : Path) :
    Act.MirrorsAll twins (shallow.entersBody path condition body)
      (deep.entersBody path condition body) := by
  refine .executor fun first second same => ?_
  rw [twinning.positions same]
  split
  · exact .pure trivial
  · cases test : condition with
    | none => exact .pure trivial
    | some expr => exact evalCondition (eval expr test)

include eval updates each ends

theorem iteration (path : Path) :
    Act.MirrorsAll twins (shallow.iteration path condition update body ())
      (deep.iteration path condition update body ()) := by
  refine .bind (twinning.entersBody eval path) fun enters _ => ?_
  cases enters with
  | false => exact .pure trivial
  | true =>
      refine .bind (twinning.execBody each path) fun finished _ => ?_
      cases finished with
      | false => exact .pure trivial
      | true =>
          refine .bind (execPart updates _) fun _ _ => ?_
          exact .bind ends fun _ _ => .pure trivial

include turns

theorem execLoop (path : Path) :
    Act.MirrorsAll twins (shallow.execLoop path condition update body)
      (deep.execLoop path condition update body) :=
  .iterate turns (fun _ => twinning.iteration eval updates each ends path) ()

omit eval updates each ends turns in
theorem leaveLoop (key : ListKey) {init : Option Stmt}
    (erases : ∀ name, Interpreter.loopVariable? init = some name → erasable name)
    (result : Except Signal Unit) :
    Act.MirrorsAll twins (Interpreter.leaveLoop key init result)
      (Interpreter.leaveLoop key init result) := by
  unfold Interpreter.leaveLoop
  split
  · exact .raise _
  · refine .bind (twinning.updatePositions _) fun _ _ => ?_
    split
    · exact .ofAttempt result
    · rename_i name named
      refine .bind (.update fun first second same => ?_) fun _ _ => .ofAttempt result
      exact twinning.removed same name (erases name named)

theorem execFor {init : Option Stmt} (inits : shallow.MirrorsEach twins deep init.toList)
    (erases : ∀ name, Interpreter.loopVariable? init = some name → erasable name) (path : Path) :
    Act.MirrorsAll twins (shallow.execFor path init condition update body)
      (deep.execFor path init condition update body) := by
  have loop : Act.MirrorsAll twins
      (do
        let result ← Act.attempt (shallow.execLoop path condition update body)
        Interpreter.leaveLoop (.of (.body :: path) body) init result)
      (do
        let result ← Act.attempt (deep.execLoop path condition update body)
        Interpreter.leaveLoop (.of (.body :: path) body) init result) :=
    .attempt (twinning.execLoop turns eval updates each ends path) (twinning.leaveLoop _ erases)
  rw [Interpreter.execFor_eq, Interpreter.execFor_eq]
  refine .executor fun first second same => ?_
  rw [twinning.positions same]
  split
  · exact loop
  · refine .bind (execPart inits _) fun _ _ => ?_
    exact .bind (twinning.updatePositions _) fun _ _ => loop

end Loops

theorem execStmt {path : Path} {statement : Stmt}
    (performs : Act.MirrorsAll twins (shallow.perform path statement) (deep.perform path statement)) :
    Act.MirrorsAll twins (shallow.execStmt path statement) (deep.execStmt path statement) := by
  refine .bind twinning.moment fun _ _ => ?_
  refine .attempt performs fun result => ?_
  exact .bind twinning.moment fun _ _ => .ofAttempt result

end Session.Twinning

/-! ### Plain statements -/

mutual

/-- The statements that a statement is put together from pass the test. -/
def Stmt.every (test : Stmt → Bool) : Stmt → Bool
  | .ifThen _ thenBranch elseBranch => everyOne test thenBranch && everyOne test elseBranch
  | .whileLoop _ body => everyOne test body
  | .forLoop init _ update body => init.all test && update.all test && everyOne test body
  | .block body => everyOne test body
  | statement => test statement

def everyOne (test : Stmt → Bool) : List Stmt → Bool
  | [] => true
  | statement :: rest => statement.every test && everyOne test rest

end

mutual

theorem Stmt.every_true (statement : Stmt) : statement.every (fun _ => true) = true := by
  match statement with
  | .ifThen condition thenBranch elseBranch =>
      simp [Stmt.every, everyOne_true thenBranch, everyOne_true elseBranch]
  | .whileLoop condition body => simp [Stmt.every, everyOne_true body]
  | .forLoop init condition update body => simp [Stmt.every, everyOne_true body]
  | .block body => simp [Stmt.every, everyOne_true body]
  | .letVar _ _ | .assign _ _ | .expression _ | .print _ | .returning _ | .yield | .breakLoop
  | .continueLoop => rfl

theorem everyOne_true (statements : List Stmt) : everyOne (fun _ => true) statements = true := by
  match statements with
  | [] => rfl
  | statement :: rest => simp [everyOne, statement.every_true, everyOne_true rest]

end

theorem everyOne_iff (test : Stmt → Bool) (statements : List Stmt) :
    everyOne test statements = true ↔ ∀ statement ∈ statements, statement.every test = true := by
  induction statements with
  | nil => simp [everyOne]
  | cons statement rest ih => simp [everyOne, ih]

theorem arePlain_iff (statements : List Stmt) :
    arePlain statements = true ↔ ∀ statement ∈ statements, statement.isPlain = true := by
  induction statements with
  | nil => simp [arePlain]
  | cons statement rest ih => simp [arePlain, ih]

theorem isPlain_of_simple {statement : Stmt} (simple : statement.isSimple = true) :
    statement.isPlain = true := by
  cases statement with
  | letVar name value => exact simple
  | assign target value => exact simple
  | expression value => exact simple
  | print value => exact simple
  | _ => cases simple

theorem every_of_simple {statement : Stmt} (simple : statement.isSimple = true) {test : Stmt → Bool}
    (passes : test statement = true) : statement.every test = true := by
  cases statement with
  | letVar name value => exact passes
  | assign target value => exact passes
  | expression value => exact passes
  | print value => exact passes
  | _ => cases simple

theorem Act.Looks.mirrors {good : α → Prop} {action : Act α} (looks : Act.Looks good action)
    (common : ∀ first second, twins first second →
      (∀ name, second.executor.scopes.lookup? name = first.executor.scopes.lookup? name) ∧
        second.executor.structs = first.executor.structs ∧
        first.executor.scopes.isFutureless = true) :
    Act.Mirrors twins good action action := by
  intro first second same
  obtain ⟨lookups, structs, futureless⟩ := common first second same
  have looked := looks first second lookups structs
  generalize action first = outcome at looked
  generalize action second = outcome' at looked
  cases looked with
  | done value well => exact .done (well futureless) same
  | raised cause => exact .raised same
  | halted => exact .halted

/-- What twins have to have in common for all plain statements to be mirrored, given which of them
pass a test. -/
structure Session.PlainTwinning (test : Stmt → Bool) (erasable : String → Prop)
    (twins : Session → Session → Prop) : Prop extends Session.Twinning erasable twins where
  looks : ∀ depth expr, expr.isPlain = true →
    Act.Mirrors twins (fun value => value.isFutureless = true) ((interpreter depth).eval expr)
      ((interpreter depth).eval expr)
  simple : ∀ depth path statement, statement.isSimple = true → test statement = true →
    Act.MirrorsAll twins ((interpreter depth).perform path statement)
      ((interpreter depth).perform path statement)
  yields : ∀ depth path, Act.MirrorsAll twins ((interpreter depth).perform path .yield)
    ((interpreter depth).perform path .yield)
  ends : ∀ depth,
    Act.MirrorsAll twins (interpreter depth).endIteration (interpreter depth).endIteration
  erases : ∀ name value, test (.letVar name value) = true → erasable name

theorem Session.PlainTwinning.exec {test : Stmt → Bool} {erasable : String → Prop}
    (twinning : Session.PlainTwinning test erasable twins) (depth : Nat) (path : Path)
    {statement : Stmt} (plain : statement.isPlain = true) (passes : statement.every test = true) :
    Act.MirrorsAll twins ((interpreter depth).exec path statement)
      ((interpreter depth).exec path statement) := by
  -- On the depth: the parts of a statement are left to the interpreter one level below.
  induction depth generalizing path statement with
  | zero => exact .halt _
  | succ depth ih =>
      have goesOn := twinning.toTwinning
      have part {part : Option Stmt} (simple : part.all Stmt.isSimple = true)
          (passes : part.all test = true) :
          (interpreter depth).MirrorsEach twins (interpreter depth) part.toList := by
        intro statement member path
        rw [Option.mem_toList.mp member] at simple passes
        exact ih path (isPlain_of_simple simple) (every_of_simple simple passes)
      have each {statements : List Stmt} (plain : arePlain statements = true)
          (passes : everyOne test statements = true) :
          (interpreter depth).MirrorsEach twins (interpreter depth) statements := by
        intro statement member path
        exact ih path ((arePlain_iff statements).mp plain statement member)
          ((everyOne_iff test statements).mp passes statement member)
      have tests (condition : Option Expr) (plain : condition.all Expr.isPlain = true) (expr : Expr)
          (found : condition = some expr) :
          Act.MirrorsAll twins ((interpreter depth).eval expr) ((interpreter depth).eval expr) := by
        rw [found] at plain
        exact (twinning.looks depth expr plain).weaken fun _ _ => trivial
      refine goesOn.execStmt ?_
      cases statement with
      | letVar name value => exact twinning.simple depth path _ plain passes
      | assign target value => exact twinning.simple depth path _ plain passes
      | expression value => exact twinning.simple depth path _ plain passes
      | print value => exact twinning.simple depth path _ plain passes
      | returning value =>
          cases value with
          | none => exact .raise _
          | some value => exact .bind (twinning.looks depth value plain) fun _ _ => .raise _
      | yield => exact twinning.yields depth path
      | ifThen condition thenBranch elseBranch =>
          simp only [Stmt.isPlain, Stmt.every, Bool.and_eq_true] at plain passes
          exact goesOn.execIf (tests (some condition) plain.1.1 condition rfl)
            (each plain.1.2 passes.1) (each plain.2 passes.2) path
      | whileLoop condition body =>
          simp only [Stmt.isPlain, Stmt.every, Bool.and_eq_true] at plain passes
          exact goesOn.execLoop (Nat.le_refl _) (tests (some condition) plain.1) (part rfl rfl)
            (each plain.2 passes) (twinning.ends depth) path
      | forLoop init condition update body =>
          simp only [Stmt.isPlain, Stmt.every, Bool.and_eq_true] at plain passes
          obtain ⟨⟨⟨inits, test⟩, updates⟩, plain⟩ := plain
          refine goesOn.execFor (Nat.le_refl _) (tests condition test) (part updates passes.1.2)
            (each plain passes.2) (twinning.ends depth) (part inits passes.1.1) ?_ path
          intro name named
          cases init with
          | none => cases named
          | some statement =>
              cases statement with
              | letVar other value =>
                  cases named
                  exact twinning.erases name value passes.1.1
              | _ => cases named
      | block body => exact goesOn.execBlock (each plain passes) _
      | breakLoop => exact .raise _
      | continueLoop => exact .raise _

end CooperativeTasks
