import CooperativeTasks.Proofs.Awaiting
import CooperativeTasks.Proofs.Bracketing
import CooperativeTasks.Proofs.Modes

set_option autoImplicit false

/-! Which signals code can raise.

Expressions raise faults and nothing else, since every bracket turns the signals of the body inside
into faults. A statement suspends only what can be resumed, the step of a task, and only for one of
two reasons: the loops of that task suspend by themselves, or a yield stands in the statement. -/

namespace CooperativeTasks

variable {α β σ : Type}

/-! ### Expressions -/

/-- No signal comes out of the action but faults. -/
def Act.FaultsOnly (action : Act α) : Prop :=
  ∀ session, (action session).Meets (fun _ _ => True) fun signal _ => ∃ cause, signal = .fault cause

namespace Act.FaultsOnly

theorem fail (cause : Fault) : (Act.fail cause : Act α).FaultsOnly :=
  fun _ => ⟨cause, rfl⟩

theorem moment : Act.moment.FaultsOnly := by
  intro session
  unfold Act.moment
  split <;> trivial

theorem bind {first : Act α} {next : α → Act β} (head : first.FaultsOnly)
    (tail : ∀ value, (next value).FaultsOnly) : (first >>= next).FaultsOnly := by
  intro session
  refine Act.bind_elim (fun value after _ => tail value after) (fun signal left run => ?_)
    fun _ _ => trivial
  have raised := head session
  rw [run] at raised
  exact raised

theorem attempt_bind {action : Act α} {next : Except Signal α → Act β}
    (tail : ∀ outcome, (next outcome).FaultsOnly) : (Act.attempt action >>= next).FaultsOnly := by
  intro session
  rw [Act.attempt_bind]
  cases action session with
  | done value after => exact tail _ after
  | raised signal left => exact tail _ left
  | halted moment => trivial

theorem faulting (action : Act α) : (Act.faulting action).FaultsOnly := by
  intro session
  unfold Act.faulting
  cases action session with
  | done value after => trivial
  | raised signal left => exact ⟨signal.toFault, rfl⟩
  | halted moment => trivial

theorem register (task : Task) : (Act.register task).FaultsOnly :=
  fun _ => Act.register_elim fun _ _ _ => ⟨trivial, trivial⟩

theorem finalize (id : TaskId) : (Act.finalize id).FaultsOnly := by
  intro session
  obtain ⟨after, _, ended⟩ := Act.Publishes.finalize id session
  rcases ended with ended | ended <;> rw [ended] <;> trivial

theorem calling (name : String) (scope : Scope) (body : Act Unit) :
    (Act.calling name scope body).FaultsOnly := by
  intro session
  refine Act.calling_elim (fun _ => ⟨_, rfl⟩) (fun _ _ _ => trivial) fun _ noted _ => ?_
  cases body (noted.enteringCall scope) with
  | done value left => trivial
  | halted moment => trivial
  | raised signal left =>
      cases signal with
      | returning value => trivial
      | suspend fromLoop => exact ⟨_, rfl⟩
      | breakLoop => exact ⟨_, rfl⟩
      | continueLoop => exact ⟨_, rfl⟩
      | fault cause => exact ⟨_, rfl⟩

theorem awaiting (id : TaskId) {drive : Act Unit} (inner : drive.FaultsOnly) :
    (Act.awaiting id drive).FaultsOnly := by
  intro session
  refine Act.awaiting_elim (fun _ _ => trivial) (fun _ _ _ _ => trivial)
    (fun _ _ _ _ _ _ => ⟨trivial, trivial⟩) ?_
  intro noted _ signal left run _ _
  have raised := inner (noted.awaitedBy session.executor.currentTask (some id))
  rw [run] at raised
  exact ⟨raised, trivial⟩

theorem cycle (interpreter : Interpreter) : interpreter.cycle.FaultsOnly := by
  intro session
  have cycled := interpreter.cycle_meets session
  generalize interpreter.cycle session = outcome at cycled ⊢
  cases outcome with
  | done result after => trivial
  | halted moment => trivial
  | raised signal left =>
      obtain ⟨id, _, popped, _, _, _, stepped⟩ := cycled
      have faults := interpreter.step_raises_faults id popped
      rw [stepped] at faults
      exact faults

end Act.FaultsOnly

/-- Whatever is put together as expressions are raises faults only. -/
theorem Deepens.faultsOnly {layer : Layer} {shallow deep : Act α}
    (deepens : Deepens layer shallow deep) (expression : layer = .expression) :
    deep.FaultsOnly := by
  induction deepens with
  | halt => exact fun _ => trivial
  | cut _ whole => exact whole expression
  | pure value => exact fun _ => trivial
  | fail cause => exact .fail cause
  | raise signal => cases expression
  | moment => exact .moment
  | read _ => exact fun _ => trivial
  | move _ => exact fun _ => trivial
  | positions change => cases expression
  | register _ => exact .register _
  | finalize id => exact .finalize id
  | bind _ _ head tail => exact .bind (head expression) fun value => tail value expression
  | attempt _ _ _ _ tail => exact .attempt_bind fun outcome => tail outcome expression
  | lift _ _ => cases expression
  | calling name _ _ _ => exact .calling name _ _
  | awaiting id _ inner => exact .awaiting id (inner expression)
  | cycle _ _ => exact .cycle _

/-! ### Suspensions -/

/-- A suspension is in order: it is a task's step that is running, and the loops of that task
suspend by themselves unless the code says so. -/
def Session.MaySuspend (explicit : Bool) (session : Session) : Prop :=
  session.executor.currentTask.isSome = true ∧
    (session.executor.autoYield = true ∨ explicit = true)

theorem Session.Kept.maySuspend {layer : Layer} {before after : Session} {explicit : Bool}
    (kept : before.Kept layer after) (may : after.MaySuspend explicit) :
    before.MaySuspend explicit := by
  unfold Session.MaySuspend
  rw [← kept.currentTask, ← kept.autoYield]
  exact may

/-- The action suspends only where that is in order, for what it says about itself. -/
def Act.SuspendsFor (explicit : Bool) (action : Act α) : Prop :=
  ∀ session fromLoop after, action session = .raised (.suspend fromLoop) after →
    session.MaySuspend explicit

/-- The attempt of an action has come out as something else than a suspension. -/
def Signal.Settled : Except Signal α → Prop
  | .error (.suspend _) => False
  | _ => True

theorem Act.FaultsOnly.suspendsFor {action : Act α} (faults : action.FaultsOnly)
    (explicit : Bool) : action.SuspendsFor explicit := by
  intro session fromLoop after run
  have raised := faults session
  rw [run] at raised
  obtain ⟨_, impossible⟩ := raised
  cases impossible

namespace Act.SuspendsFor

variable {explicit : Bool}

theorem weaken {weak strong : Bool} {action : Act α} (suspends : action.SuspendsFor weak)
    (implies : weak = true → strong = true) : action.SuspendsFor strong := by
  intro session fromLoop after run
  obtain ⟨running, reason⟩ := suspends session fromLoop after run
  exact ⟨running, reason.imp_right implies⟩

theorem pure (value : α) : (Pure.pure value : Act α).SuspendsFor explicit :=
  fun _ _ _ impossible => nomatch impossible

theorem update (change : Session → Session) : (Act.update change).SuspendsFor explicit :=
  fun _ _ _ impossible => nomatch impossible

theorem ofSettled {outcome : Except Signal α} (settled : Signal.Settled outcome) :
    (Act.ofAttempt outcome).SuspendsFor explicit := by
  intro session fromLoop after run
  cases outcome with
  | ok value => cases run
  | error signal =>
      cases run
      exact settled.elim

theorem bind {first : Act α} {next : α → Act β} (brackets : first.Brackets .statement)
    (head : first.SuspendsFor explicit) (tail : ∀ value, (next value).SuspendsFor explicit) :
    (first >>= next).SuspendsFor explicit := by
  intro session fromLoop after
  have kept := brackets session
  refine Act.bind_elim (motive := fun outcome => outcome = .raised (.suspend fromLoop) after →
    session.MaySuspend explicit) ?_ ?_ (fun _ _ impossible => nomatch impossible)
  · intro value between run ended
    rw [run] at kept
    exact Session.Kept.maySuspend kept (tail value between fromLoop after ended)
  · intro signal left run ended
    cases ended
    exact head session fromLoop after run

theorem attempt {action : Act α} {next : Except Signal α → Act β}
    (brackets : action.Brackets .statement) (inner : action.SuspendsFor explicit)
    (tail : ∀ outcome, Signal.Settled outcome → (next outcome).SuspendsFor explicit) :
    (Act.attempt action >>= next).SuspendsFor explicit := by
  intro session fromLoop after ended
  have kept := brackets session
  rw [Act.attempt_bind] at ended
  cases run : action session with
  | done value between =>
      rw [run] at ended kept
      exact Session.Kept.maySuspend kept (tail (.ok value) trivial between fromLoop after ended)
  | halted moment =>
      rw [run] at ended
      cases ended
  | raised signal left =>
      rw [run] at ended kept
      cases signal with
      | suspend inLoop => exact inner session inLoop left run
      | returning value =>
          have rest := tail (.error (.returning value)) trivial
          exact Session.Kept.maySuspend kept (rest left fromLoop after ended)
      | breakLoop =>
          have rest := tail (.error .breakLoop) trivial
          exact Session.Kept.maySuspend kept (rest left fromLoop after ended)
      | continueLoop =>
          have rest := tail (.error .continueLoop) trivial
          exact Session.Kept.maySuspend kept (rest left fromLoop after ended)
      | fault cause =>
          have rest := tail (.error (.fault cause)) trivial
          exact Session.Kept.maySuspend kept (rest left fromLoop after ended)

theorem iterate {turns : Nat} {action : σ → Act (Option σ)}
    (brackets : ∀ state, (action state).Brackets .statement)
    (inner : ∀ state, (action state).SuspendsFor explicit) (state : σ) :
    Act.SuspendsFor explicit (Act.iterate turns action state) :=
  Act.iterate_closed (fun _ _ _ impossible => nomatch impossible) (.pure ())
    (fun state _ tail => .bind (brackets state) (inner state) tail) turns state

end Act.SuspendsFor

/-! ### Statements -/

theorem anyContainsYield_drop (index : Nat) {statements : List Stmt}
    (found : anyContainsYield (statements.drop index) = true) :
    anyContainsYield statements = true := by
  induction statements generalizing index with
  | nil =>
      rw [List.drop_nil] at found
      exact found
  | cons statement rest ih =>
      cases index with
      | zero => exact found
      | succ index =>
          rw [anyContainsYield, ih index found, Bool.or_true]

namespace Interpreter

/-- The interpreter is put together as all are, and the statements that it executes suspend only
where that is in order. -/
structure Disciplined (interpreter : Interpreter) : Prop where
  itself : interpreter.DeepensTo interpreter
  exec : ∀ path statement,
    (interpreter.exec path statement).SuspendsFor statement.containsYield

namespace Disciplined

variable {interpreter : Interpreter} (disciplined : interpreter.Disciplined)

include disciplined

theorem eval (expr : Expr) (explicit : Bool) : (interpreter.eval expr).SuspendsFor explicit :=
  ((disciplined.itself.eval expr).faultsOnly rfl).suspendsFor explicit

theorem evalThen (expr : Expr) {explicit : Bool} {next : Value → Act α}
    (tail : ∀ value, (next value).SuspendsFor explicit) :
    (interpreter.eval expr >>= next).SuspendsFor explicit :=
  .bind (Deepens.lift (disciplined.itself.eval expr)).brackets (disciplined.eval expr explicit) tail

theorem execFrom (key : ListKey) (path : Path) (index : Nat) (statements : List Stmt) :
    (interpreter.execFrom key path index statements).SuspendsFor (anyContainsYield statements) := by
  induction statements generalizing index with
  | nil => exact .update _
  | cons statement rest ih =>
      refine .attempt (disciplined.itself.exec _ statement).brackets
        ((disciplined.exec _ statement).weaken fun found => ?_) fun outcome settled => ?_
      · rw [anyContainsYield, found, Bool.true_or]
      · cases outcome with
        | ok _ =>
            refine (ih (index + 1)).weaken fun found => ?_
            rw [anyContainsYield, found, Bool.or_true]
        | error signal =>
            have broken : (do
                Act.updatePositions (Positions.clear key)
                Act.raise signal : Act Unit).SuspendsFor (anyContainsYield (statement :: rest)) := by
              intro session fromLoop after run
              cases run
              exact settled.elim
            cases signal with
            | suspend fromLoop => exact settled.elim
            | returning value => exact broken
            | breakLoop => exact broken
            | continueLoop => exact broken
            | fault cause => exact broken

theorem execBlock (path : Path) (statements : List Stmt) :
    (interpreter.execBlock path statements).SuspendsFor (anyContainsYield statements) := by
  intro session fromLoop after run
  exact ((disciplined.execFrom _ path _ _).weaken (anyContainsYield_drop _)) session fromLoop
    after run

theorem execIf (path : Path) (condition : Expr) (thenBranch elseBranch : List Stmt) :
    (interpreter.execIf path condition thenBranch elseBranch).SuspendsFor
      (anyContainsYield thenBranch || anyContainsYield elseBranch) := by
  have first : (interpreter.execBlock (.thenBranch :: path) thenBranch).SuspendsFor
      (anyContainsYield thenBranch || anyContainsYield elseBranch) :=
    (disciplined.execBlock _ thenBranch).weaken fun found => by rw [found, Bool.true_or]
  have second : (interpreter.execBlock (.elseBranch :: path) elseBranch).SuspendsFor
      (anyContainsYield thenBranch || anyContainsYield elseBranch) :=
    (disciplined.execBlock _ elseBranch).weaken fun found => by rw [found, Bool.or_true]
  have tests := disciplined.itself.related.evalCondition condition
  refine .bind (@Deepens.executor .statement).brackets
    (fun _ _ _ impossible => nomatch impossible) fun executor => ?_
  dsimp only
  split
  · exact first
  · split
    · exact second
    · refine .bind tests.lift.brackets ((tests.faultsOnly rfl).suspendsFor _) fun holds => ?_
      split
      · exact first
      · exact second

theorem execBody (path : Path) (body : List Stmt) :
    (interpreter.execBody path body).SuspendsFor (anyContainsYield body) := by
  refine .attempt (disciplined.itself.related.execBlock _ body).brackets (disciplined.execBlock _ body)
    fun outcome settled => ?_
  cases outcome with
  | ok _ => exact .pure true
  | error signal =>
      cases signal with
      | suspend fromLoop => exact settled.elim
      | returning value => exact fun _ _ _ impossible => nomatch impossible
      | breakLoop => exact .pure false
      | continueLoop => exact .pure true
      | fault cause => exact fun _ _ _ impossible => nomatch impossible

omit disciplined in
theorem execPart_faultsOnly (path : Path) (part : Option Stmt) :
    (interpreter.execPart path part).FaultsOnly := by
  -- Nothing may be left early in the head of a loop: what suspends there faults.
  cases part with
  | none => exact fun _ => trivial
  | some statement => exact .faulting _

theorem endIteration : interpreter.endIteration.SuspendsFor false := by
  intro session fromLoop after ended
  unfold Interpreter.endIteration at ended
  rw [Act.executor_bind] at ended
  cases running : session.executor.currentTask.isSome with
  | true =>
      rw [running, if_pos rfl] at ended
      cases mode : session.executor.autoYield with
      | true => exact ⟨running, .inl mode⟩
      | false =>
          rw [mode, if_neg Bool.false_ne_true] at ended
          cases ended
  | false =>
      have background := (disciplined.itself.related.runOneCycle.faultsOnly rfl).suspendsFor false
      rw [running, if_neg Bool.false_ne_true, Act.scheduler_bind] at ended
      split at ended
      · exact background session fromLoop after ended
      · cases ended

theorem iteration (path : Path) (condition : Option Expr) (update : Option Stmt)
    (body : List Stmt) (state : Unit) :
    (interpreter.iteration path condition update body state).SuspendsFor
      (anyContainsYield body) := by
  have enters := disciplined.itself.related.entersBody path condition body
  refine .bind enters.lift.brackets ((enters.faultsOnly rfl).suspendsFor _) fun goesOn => ?_
  cases goesOn with
  | false => exact .pure none
  | true =>
      refine .bind (disciplined.itself.related.execBody path body).brackets (disciplined.execBody path body)
        fun finished => ?_
      cases finished with
      | false => exact .pure none
      | true =>
          refine .bind (disciplined.itself.related.execPart _ update).brackets
            ((execPart_faultsOnly _ update).suspendsFor _) fun _ => ?_
          refine .bind disciplined.itself.related.endIteration.brackets
            (disciplined.endIteration.weaken fun impossible => nomatch impossible) fun _ => ?_
          exact .pure _

theorem execLoop (path : Path) (condition : Option Expr) (update : Option Stmt)
    (body : List Stmt) :
    (interpreter.execLoop path condition update body).SuspendsFor (anyContainsYield body) :=
  .iterate (fun state => (disciplined.itself.related.iteration path condition update body state).brackets)
    (disciplined.iteration path condition update body) ()

omit disciplined in
theorem leaveLoop (key : ListKey) (init : Option Stmt) {explicit : Bool}
    {outcome : Except Signal Unit} (settled : Signal.Settled outcome) :
    (Interpreter.leaveLoop key init outcome).SuspendsFor explicit := by
  intro session fromLoop after ended
  unfold Interpreter.leaveLoop at ended
  split at ended
  · exact settled.elim
  · cases entered : loopVariable? init with
    | none =>
        rw [entered] at ended
        exact (Act.SuspendsFor.ofSettled settled _ fromLoop after ended :
          Session.MaySuspend explicit _)
    | some name =>
        rw [entered] at ended
        exact (Act.SuspendsFor.ofSettled settled _ fromLoop after ended :
          Session.MaySuspend explicit _)

theorem execFor (path : Path) (init : Option Stmt) (condition : Option Expr)
    (update : Option Stmt) (body : List Stmt) :
    (interpreter.execFor path init condition update body).SuspendsFor (anyContainsYield body) := by
  have loop : (do
      let outcome ← Act.attempt (interpreter.execLoop path condition update body)
      Interpreter.leaveLoop (.of (.body :: path) body) init outcome : Act Unit).SuspendsFor
        (anyContainsYield body) :=
    .attempt (disciplined.itself.related.execLoop path condition update body).brackets
      (disciplined.execLoop path condition update body) fun _ settled => leaveLoop _ init settled
  rw [execFor_eq]
  refine .bind (@Deepens.executor .statement).brackets
    (fun _ _ _ impossible => nomatch impossible) fun executor => ?_
  split
  · exact loop
  · refine .bind (disciplined.itself.related.execPart _ init).brackets
      ((execPart_faultsOnly _ init).suspendsFor _) fun _ => ?_
    exact .bind (Deepens.positions _).brackets (.update _) fun _ => loop

theorem perform (path : Path) (statement : Stmt) :
    (interpreter.perform path statement).SuspendsFor statement.containsYield := by
  cases statement with
  | letVar name value =>
      refine disciplined.evalThen value fun value => ?_
      have binds := @Deepens.bindFutureTo .expression (Executor.localSite? name) value
      exact .bind binds.lift.brackets ((binds.faultsOnly rfl).suspendsFor _) fun _ => .update _
  | assign target value =>
      refine disciplined.evalThen value fun value => ?_
      have binds := @Deepens.bindFutureTo .expression (Executor.site? target) value
      have writes := @Deepens.writePlace .expression target value
      exact .bind binds.lift.brackets ((binds.faultsOnly rfl).suspendsFor _) fun _ =>
        (writes.faultsOnly rfl).suspendsFor _
  | expression value => exact disciplined.evalThen value fun _ => .pure ()
  | print value => exact disciplined.evalThen value fun _ => .update _
  | returning value =>
      cases value with
      | none => exact fun _ _ _ impossible => nomatch impossible
      | some value => exact disciplined.evalThen value fun _ _ _ _ impossible => nomatch impossible
  | yield =>
      intro session fromLoop after ended
      rw [Interpreter.perform, Act.executor_bind] at ended
      cases running : session.executor.currentTask.isSome with
      | true => exact ⟨running, .inr rfl⟩
      | false =>
          rw [running, if_neg Bool.false_ne_true] at ended
          exact (disciplined.itself.related.runOneCycle.faultsOnly rfl).suspendsFor _ session fromLoop after
            ended
  | ifThen condition thenBranch elseBranch =>
      exact disciplined.execIf path condition thenBranch elseBranch
  | whileLoop condition body => exact disciplined.execLoop path (some condition) none body
  | forLoop init condition update body =>
      refine (disciplined.execFor path init condition update body).weaken fun found => ?_
      rw [Stmt.containsYield, found, Bool.or_true]
  | block body => exact disciplined.execBlock _ body
  | breakLoop => exact fun _ _ _ impossible => nomatch impossible
  | continueLoop => exact fun _ _ _ impossible => nomatch impossible

theorem execStmt (path : Path) (statement : Stmt) :
    (interpreter.execStmt path statement).SuspendsFor statement.containsYield := by
  have moment : Act.moment.Brackets .statement := .moment .statement
  refine .bind moment (Act.FaultsOnly.moment.suspendsFor _) fun _ => ?_
  refine .attempt (disciplined.itself.perform path statement).brackets
    (disciplined.perform path statement) fun outcome settled => ?_
  exact .bind moment (Act.FaultsOnly.moment.suspendsFor _) fun _ => .ofSettled settled

end Disciplined

end Interpreter

theorem interpreter_disciplined (depth : Nat) : (interpreter depth).Disciplined := by
  induction depth with
  | zero =>
      exact ⟨interpreter_deepens (Nat.le_refl 0), fun _ _ _ _ _ impossible => nomatch impossible⟩
  | succ depth ih => exact ⟨interpreter_deepens (Nat.le_refl _), ih.execStmt⟩

/-! ### Main statements -/

namespace Interpreter

/-- Between two main statements a queued task gets a turn, if the settings say so. -/
def betweenStatements (interpreter : Interpreter) : Act Unit := do
  if (← Act.executor).settings.backgroundCycles then
    if (← Act.scheduler).hasQueued then
      interpreter.runOneCycle

theorem runMain_cons (interpreter : Interpreter) (index : Nat) (statement : Stmt)
    (rest : List Stmt) :
    interpreter.runMain index (statement :: rest) =
      (do
        match ← Act.attempt (interpreter.exec [.item index] statement) with
        | .ok () => do
            interpreter.betweenStatements
            interpreter.runMain (index + 1) rest
        | .error (.returning _) => return
        | .error signal => Act.fail signal.toFault) := by
  funext session
  rw [runMain, Act.attempt_bind, Act.attempt_bind]
  cases interpreter.exec [.item index] statement session with
  | halted moment => rfl
  | raised signal left => cases signal <;> rfl
  | done value between =>
      dsimp only
      unfold betweenStatements
      rw [Act.executor_bind, Act.bind_apply, Act.executor_bind]
      cases between.executor.settings.backgroundCycles with
      | false => rfl
      | true =>
          rw [if_pos rfl, if_pos rfl, Act.scheduler_bind, Act.scheduler_bind]
          cases between.scheduler.hasQueued <;> rfl

/-- Running main statements comes to the later ones of them. -/
inductive MainReaches (interpreter : Interpreter) :
    Nat → List Stmt → Session → Nat → List Stmt → Session → Prop where
  | here (index : Nat) (statements : List Stmt) (session : Session) :
      MainReaches interpreter index statements session index statements session
  | later {index index' : Nat} {statement : Stmt} {rest statements : List Stmt}
      {session between next reached : Session}
      (ran : interpreter.exec [.item index] statement session = .done () between)
      (turned : interpreter.betweenStatements between = .done () next)
      (reaches : MainReaches interpreter (index + 1) rest next index' statements reached) :
      MainReaches interpreter index (statement :: rest) session index' statements reached

theorem MainReaches.runMain {interpreter : Interpreter} {index index' : Nat}
    {statements statements' : List Stmt} {session reached : Session}
    (reaches : interpreter.MainReaches index statements session index' statements' reached) :
    interpreter.runMain index statements session =
      interpreter.runMain index' statements' reached := by
  induction reaches with
  | here => rfl
  | later ran turned _ ih =>
      rw [runMain_cons, Act.attempt_bind, ran]
      dsimp only
      rw [Act.bind_apply, turned]
      exact ih

/-- How running main statements ends at the first of those that are left. -/
inductive MainStops (interpreter : Interpreter) :
    Nat → List Stmt → Session → Outcome Unit → Prop where
  | through (index : Nat) (session : Session) :
      MainStops interpreter index [] session (.done () session)
  | returned {index : Nat} {statement : Stmt} {rest : List Stmt} {session after : Session}
      {value : Value}
      (ran : interpreter.exec [.item index] statement session = .raised (.returning value) after) :
      MainStops interpreter index (statement :: rest) session (.done () after)
  | failed {index : Nat} {statement : Stmt} {rest : List Stmt} {session after : Session}
      {signal : Signal}
      (ran : interpreter.exec [.item index] statement session = .raised signal after)
      (other : ∀ value, signal ≠ .returning value) :
      MainStops interpreter index (statement :: rest) session (.raised (.fault signal.toFault) after)
  | halted {index : Nat} {statement : Stmt} {rest : List Stmt} {session moment : Session}
      (ran : interpreter.exec [.item index] statement session = .halted moment) :
      MainStops interpreter index (statement :: rest) session (.halted moment)
  | between {index : Nat} {statement : Stmt} {rest : List Stmt} {session between : Session}
      {outcome : Outcome Unit}
      (ran : interpreter.exec [.item index] statement session = .done () between)
      (turned : interpreter.betweenStatements between = outcome)
      (ends : ∀ next, outcome ≠ .done () next) :
      MainStops interpreter index (statement :: rest) session outcome

/-- Running main statements goes from one that is reached to the next, until it stops at one. -/
theorem runMain_stops (interpreter : Interpreter) (index : Nat) (statements : List Stmt)
    (session : Session) :
    ∃ index' left reached,
      interpreter.MainReaches index statements session index' left reached ∧
        interpreter.MainStops index' left reached (interpreter.runMain index statements session) := by
  induction statements generalizing index session with
  | nil => exact ⟨index, [], session, .here index [] session, .through index session⟩
  | cons statement rest ih =>
      have here : interpreter.MainReaches index (statement :: rest) session index
        (statement :: rest) session := .here index (statement :: rest) session
      rw [runMain_cons, Act.attempt_bind]
      cases run : interpreter.exec [.item index] statement session with
      | halted moment => exact ⟨_, _, _, here, .halted run⟩
      | raised signal after =>
          cases signal with
          | returning value => exact ⟨_, _, _, here, .returned run⟩
          | suspend fromLoop => exact ⟨_, _, _, here, .failed run nofun⟩
          | breakLoop => exact ⟨_, _, _, here, .failed run nofun⟩
          | continueLoop => exact ⟨_, _, _, here, .failed run nofun⟩
          | fault cause => exact ⟨_, _, _, here, .failed run nofun⟩
      | done _ between =>
          dsimp only
          rw [Act.bind_apply]
          cases turned : interpreter.betweenStatements between with
          | halted moment => exact ⟨_, _, _, here, .between run turned nofun⟩
          | raised signal after => exact ⟨_, _, _, here, .between run turned nofun⟩
          | done _ next =>
              obtain ⟨index', left, reached, reaches, stops⟩ := ih (index + 1) next
              exact ⟨index', left, reached, .later run turned reaches, stops⟩

theorem MainReaches.kept {interpreter : Interpreter}
    (itself : interpreter.DeepensTo interpreter) {index index' : Nat}
    {statements statements' : List Stmt} {session reached : Session}
    (reaches : interpreter.MainReaches index statements session index' statements' reached) :
    session.Kept .statement reached := by
  have background :
      Deepens .statement interpreter.betweenStatements interpreter.betweenStatements := by
    refine .bind .executor fun executor => ?_
    split
    · refine .bind .scheduler fun scheduler => ?_
      split
      · exact .lift itself.related.runOneCycle
      · exact .pure ()
    · exact .pure ()
  induction reaches with
  | here => exact .refl _ _
  | @later index _ statement _ _ session between _ _ ran turned _ ih =>
      have executed := (itself.exec [.item index] statement).brackets session
      rw [ran] at executed
      have rested := background.brackets between
      rw [turned] at rested
      exact (Session.Kept.trans executed rested).trans ih

end Interpreter

/-! ### The discipline of signals -/

/-- Evaluating an expression raises nothing but faults. Executing a statement suspends only in the
step of a task, and there, unless loops suspend by themselves, only if a yield stands in the
statement. So the body of a synchronous call never suspends. Neither does any of the main
statements: running them comes from one to the next until it stops at one, and does at each what
that statement does. And a task whose loops do not suspend by themselves, as was settled when it was
registered, suspends only in statements in which a yield stands. -/
theorem signals_come_from_their_statements (depth : Nat) :
    (∀ expr session, ((interpreter depth).eval expr session).Meets (fun _ _ => True)
      fun signal _ => ∃ cause, signal = .fault cause) ∧
    (∀ path statement session fromLoop after,
      (interpreter depth).exec path statement session = .raised (.suspend fromLoop) after →
        session.executor.currentTask.isSome = true ∧
          (session.executor.autoYield = true ∨ statement.containsYield = true)) ∧
    (∀ (function : FunctionDecl) (scope : Scope) (session : Session) (fromLoop : Bool)
      (after : Session),
      (interpreter depth).execBlock [] function.body (session.enteringCall scope) ≠
        .raised (.suspend fromLoop) after) ∧
    (∀ start statements (session : Session), session.executor.currentTask = none →
      (∃ index left reached,
        (interpreter depth).MainReaches start statements session index left reached ∧
          (interpreter depth).MainStops index left reached
            ((interpreter depth).runMain start statements session)) ∧
      ∀ index statement rest before, (interpreter depth).MainReaches start statements session index
          (statement :: rest) before →
        (interpreter depth).runMain start statements session =
          (interpreter depth).runMain index (statement :: rest) before ∧
        ∀ fromLoop after, (interpreter depth).exec [.item index] statement before ≠
          .raised (.suspend fromLoop) after) ∧
    ∀ session : Session, session.Reachable → ∀ id task, session.scheduler.task? id = some task →
      task.autoYield = (task.body.any fun function => !function.hasYield) ∧
      (task.autoYield = false → ∀ executed statement fromLoop scope positions after,
        (interpreter depth).execInTask id task statement executed =
            .done (.error (.suspend fromLoop), scope, positions) after →
          statement.containsYield = true) := by
  have disciplined := interpreter_disciplined depth
  refine ⟨fun expr => ?_, fun path statement => ?_, ?_, ?_, ?_⟩
  · exact (disciplined.itself.eval expr).faultsOnly rfl
  · exact disciplined.exec path statement
  · intro function scope session fromLoop after run
    -- Inside of a call no task is running that could be suspended.
    obtain ⟨running, _⟩ := disciplined.execBlock [] function.body _ fromLoop after run
    cases running
  · intro start statements session outside
    refine ⟨(interpreter depth).runMain_stops start statements session, ?_⟩
    intro index statement rest before reaches
    refine ⟨reaches.runMain, fun fromLoop after run => ?_⟩
    obtain ⟨running, _⟩ := disciplined.exec _ statement before fromLoop after run
    -- The turns between main statements leave the running task as it was, which is none.
    rw [(reaches.kept disciplined.itself).currentTask, outside] at running
    cases running
  · intro session reachable id task found
    refine ⟨reachable.modesRegistered id task.terms ?_, ?_⟩
    · unfold Scheduler.terms?
      rw [found]
      rfl
    · intro mode executed statement fromLoop scope positions after run
      rw [Interpreter.execInTask_apply] at run
      cases ended : (interpreter depth).exec [.item task.counter] statement
          (executed.enteringTask id task) with
      | halted moment =>
          rw [ended] at run
          cases run
      | done value left =>
          rw [ended] at run
          cases run
      | raised signal left =>
          rw [ended] at run
          cases run
          obtain ⟨_, reason⟩ := disciplined.exec _ statement _ fromLoop left ended
          exact reason.resolve_left fun yields =>
            Bool.false_ne_true (mode.symm.trans yields)

def pausing : FunctionDecl where
  name := "pause"
  params := []
  body := [.yield]
  isAsync := true
  owner := none

def readyToPause : Session :=
  ((interpreter 0).request (.spawn pausing []) (.start {} 0)).session

theorem signals_come_from_their_statements_pausing :
    ∃ task scope positions after, readyToPause.scheduler.task? ⟨0⟩ = some task ∧
      task.autoYield = false ∧
      (interpreter 2).execInTask ⟨0⟩ task .yield readyToPause =
        .done (.error (.suspend false), scope, positions) after ∧
      Stmt.yield.containsYield = true := by
  have reachable : readyToPause.Reachable :=
    (Session.Reachable.start {} 0).requested rfl 0 (.spawn pausing [])
  obtain ⟨task, found, mode⟩ :
      ∃ task, readyToPause.scheduler.task? ⟨0⟩ = some task ∧ task.autoYield = false :=
    ⟨_, rfl, rfl⟩
  obtain ⟨scope, positions, after, ran⟩ :
      ∃ scope positions after, (interpreter 2).execInTask ⟨0⟩ task .yield readyToPause =
        .done (.error (.suspend false), scope, positions) after :=
    ⟨_, _, _, rfl⟩
  obtain ⟨_, _, _, _, tasks⟩ := signals_come_from_their_statements 2
  exact ⟨task, scope, positions, after, found, mode, ran,
    (tasks readyToPause reachable ⟨0⟩ task found).2 mode readyToPause .yield false scope positions
      after ran⟩

end CooperativeTasks
