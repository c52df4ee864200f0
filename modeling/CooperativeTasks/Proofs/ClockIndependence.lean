import CooperativeTasks.Interpreter.Run
import CooperativeTasks.Proofs.TimelessTurns

set_option autoImplicit false

/-! Programs without timers do not depend on the clock.

Expressions and statements without timers come to the same at two different times, as long as those of the
functions and the tasks they meet have none either. So does a whole program, from the sessions in which it
is started to its end. -/

namespace CooperativeTasks

open Session (Timeless)

variable {α : Type}

/-- At two different times, the first interpreter comes to what the second comes to. -/
structure Interpreter.KeepsPace (shallow deep : Interpreter) : Prop where
  eval : ∀ nesting expr, expr.usesTimers = false →
    Act.MirrorsAll (Timeless nesting) (shallow.eval expr) (deep.eval expr)
  exec : ∀ nesting path statement, statement.usesTimers = false →
    Act.MirrorsAll (Timeless nesting) (shallow.exec path statement) (deep.exec path statement)
  turns : shallow.turns ≤ deep.turns

/-! ### Expressions -/

theorem Session.Timeless.twinning (nesting : Nesting) :
    Session.Twinning (fun _ => True) (Timeless nesting) where
  unlimited timeless := timeless.unlimited
  positions timeless := congrArg Executor.positions timeless.executor
  positioned timeless change :=
    timeless.changed (Session.positioned change) (fun unhurried => { unhurried with }) fun _ _ _ => rfl
  recorded timeless := timeless.recorded
  removed timeless name _ :=
    timeless.changed
      (fun session => session.showing
        (session.executor.scopes.modifyCurrent (Scope.remove name)) session.executor.output)
      (fun unhurried => { unhurried with }) fun _ _ _ => rfl

section Pieces

variable {nesting : Nesting}

theorem timeless_updateExecutor {change : Executor → Executor}
    (functions : ∀ executor, (change executor).functions = executor.functions)
    (current : ∀ executor, (∀ id, executor.currentTask = some id → id ∈ nesting.active) →
      ∀ id, (change executor).currentTask = some id → id ∈ nesting.active) :
    Act.MirrorsAll (Timeless nesting) (Act.updateExecutor change) (Act.updateExecutor change) := by
  refine timeless_update (fun session unhurried => ?_) fun _ _ _ _ => rfl
  refine { unhurried with functions := ?_, current := current _ unhurried.current }
  change ∀ name function, Bindings.get? name (change session.executor).functions = some function → _
  rw [functions]
  exact unhurried.functions

theorem timeless_updateScopes (change : ScopeStack → ScopeStack) :
    Act.MirrorsAll (Timeless nesting) (Act.updateScopes change) (Act.updateScopes change) :=
  timeless_updateExecutor (fun _ => rfl) fun _ current => current

theorem timeless_ofExcept (result : Except Fault α) :
    Act.MirrorsAll (Timeless nesting) (Act.ofExcept result) (Act.ofExcept result) :=
  .ofExcept fun _ _ => trivial

theorem timeless_readPlace (name : String) :
    Act.MirrorsAll (Timeless nesting) (Act.readPlace name) (Act.readPlace name) :=
  timeless_executor fun _ _ => timeless_ofExcept _

theorem timeless_writePlace (name : String) (value : Value) :
    Act.MirrorsAll (Timeless nesting) (Act.writePlace name value) (Act.writePlace name value) :=
  timeless_executor fun _ _ => .bind (timeless_updateScopes _) fun _ _ => timeless_ofExcept _

theorem timeless_functionNamed (name : String) :
    Act.Mirrors (Timeless nesting) (fun function => function.usesTimers = false)
      (Interpreter.functionNamed name) (Interpreter.functionNamed name) := by
  apply timeless_executor
  intro session unhurried
  cases found : Bindings.get? name session.executor.functions with
  | none => exact .fail _
  | some function => exact .pure (unhurried.functions name function found)

theorem timeless_slotOf (id : TaskId) :
    Act.MirrorsAll (Timeless nesting) (Interpreter.slotOf id) (Interpreter.slotOf id) := by
  apply timeless_scheduler
  intro session settings _
  rw [Scheduler.task?_paced]
  cases session.scheduler.task? id with
  | none => exact .fail _
  | some task =>
      dsimp only
      split
      · exact .pure trivial
      · exact .fail _

theorem timeless_bindFutureTo (site : Executor → Option BindingSite) (value : Value) :
    Act.MirrorsAll (Timeless nesting) (Interpreter.bindFutureTo site value)
      (Interpreter.bindFutureTo site value) := by
  unfold Interpreter.bindFutureTo
  split
  · exact .pure trivial
  · rename_i id _
    apply timeless_scheduler
    intro session settings _
    rw [Scheduler.isFinished_paced]
    split
    · exact .pure trivial
    · apply timeless_executor
      intro session _
      split
      · exact .pure trivial
      · apply timeless_keepTimes
        exact ⟨fun _ => rfl, fun _ => rfl, fun _ => rfl, fun _ => rfl⟩

theorem Task.unhurried_ofFunction {function : FunctionDecl} (timeless : function.usesTimers = false)
    (args : List Value) : (Task.ofFunction function args).Unhurried where
  awake := rfl
  endless := rfl
  body _ same := by
    cases same
    exact timeless

end Pieces

namespace Interpreter.KeepsPace

variable {nesting : Nesting} {shallow deep : Interpreter} (pace : shallow.KeepsPace deep)

include pace

theorem runOneCycle : Act.MirrorsAll (Timeless nesting) shallow.runOneCycle deep.runOneCycle :=
  timeless_runOneCycle fun id => pace.exec (nesting.stepping id)

theorem each {statements : List Stmt} (timeless : ∀ statement ∈ statements, statement.usesTimers = false) :
    shallow.MirrorsEach (Timeless nesting) deep statements :=
  fun statement member path => pace.exec nesting path statement (timeless statement member)

theorem callSync {function : FunctionDecl} (timeless : function.usesTimers = false)
    (args : List Value) (receiver : Option Value) :
    Act.MirrorsAll (Timeless nesting) (shallow.callSync function args receiver)
      (deep.callSync function args receiver) := by
  have body := (Timeless.twinning nesting).execBlock
    (pace.each (anyStatementUsesTimers_eq_false timeless)) []
  apply timeless_executor
  intro session before
  dsimp only
  split
  · exact .fail _
  · refine .bind (timeless_note _ _) fun _ _ => ?_
    refine .bind (timeless_updateExecutor (fun _ => rfl) fun _ _ id impossible => ?_) fun _ _ => ?_
    · cases impossible
    refine .attempt body fun outcome => ?_
    apply timeless_executor
    intro left _
    refine .bind (timeless_updateExecutor (fun _ => rfl) fun _ _ => before.current) fun _ _ => ?_
    split
    · exact .pure trivial
    · exact .pure trivial
    · exact .fail _

theorem evalAll {exprs : List Expr} (timeless : anyUsesTimers exprs = false) :
    Act.MirrorsAll (Timeless nesting) (shallow.evalAll exprs) (deep.evalAll exprs) :=
  mirrors_evalAll fun expr member =>
    pace.eval nesting expr (anyUsesTimers_eq_false timeless expr member)

theorem callFunction (name : String) {args : List Expr} (timeless : anyUsesTimers args = false) :
    Act.MirrorsAll (Timeless nesting) (shallow.callFunction name args) (deep.callFunction name args) := by
  refine .bind (timeless_functionNamed name) fun function declared => ?_
  refine .bind (pace.evalAll timeless) fun values _ => ?_
  refine .bind (timeless_ofExcept _) fun _ _ => ?_
  split
  · refine .bind (timeless_register ?_ rfl) fun id _ => timeless_futureValue id
    exact Task.unhurried_ofFunction declared values
  · exact .bind (pace.callSync declared values none) fun _ _ => .pure trivial

theorem callMethod (receiver method : String) {args : List Expr}
    (timeless : anyUsesTimers args = false) :
    Act.MirrorsAll (Timeless nesting) (shallow.callMethod receiver method args)
      (deep.callMethod receiver method args) := by
  refine .bind (timeless_readPlace receiver) fun target _ => ?_
  cases target with
  | struct typeName fields =>
      refine .bind (timeless_functionNamed _) fun function declared => ?_
      refine .bind (pace.evalAll timeless) fun values _ => ?_
      refine .bind (timeless_ofExcept _) fun _ _ => ?_
      split
      · apply timeless_executor
        intro session _
        refine .bind (timeless_register ?_ rfl) fun id _ => timeless_futureValue id
        exact { Task.unhurried_ofFunction declared values with }
      · refine .bind (pace.callSync declared values _) fun returned _ => ?_
        obtain ⟨value, updated⟩ := returned
        cases updated with
        | none => exact .pure trivial
        | some instanceValue =>
            have written : Act.MirrorsAll (Timeless nesting)
                (Act.writeInstance receiver instanceValue)
                (Act.writeInstance receiver instanceValue) :=
              .bind (timeless_updateScopes _) fun _ _ => timeless_writePlace _ _
            exact .bind written fun _ _ => .pure trivial
  | _ => exact .fail _

theorem awaitTask (id : TaskId) :
    Act.MirrorsAll (Timeless nesting) (shallow.awaitTask id) (deep.awaitTask id) := by
  have drive (nesting : Nesting) :
      Act.MirrorsAll (Timeless nesting) (shallow.runUntilComplete id) (deep.runUntilComplete id) :=
    timeless_runUntilComplete (fun id => pace.exec (nesting.stepping id)) pace.turns id
  have ends (current : Option TaskId) (outcome : Except Signal Unit) :
      Act.MirrorsAll (Timeless nesting)
        (do
          Act.note (.awaitEnded id current)
          Act.ofAttempt outcome)
        (do
          Act.note (.awaitEnded id current)
          Act.ofAttempt outcome) :=
    .bind (timeless_note _ _) fun _ _ => .ofAttempt outcome
  apply timeless_executor
  intro session unhurried
  dsimp only
  refine .bind (timeless_note _ _) fun _ _ => ?_
  cases current : session.executor.currentTask with
  | none => exact .attempt (drive nesting) (ends _)
  | some waiter =>
      have runs : waiter ∈ nesting.active := unhurried.current waiter current
      have marks {awaited : Option TaskId} (task : Task) (calm : task.Unhurried) :
          ({ task with waitingFor := awaited } : Task).Unhurried :=
        ⟨calm.awake, calm.endless, calm.body⟩
      refine .enclosed (fun first second outside => ?_) (drive (nesting.awaiting waiter runs)) ?_
      · refine outside.changed (Session.onTask waiter fun task => { task with waitingFor := some id })
          (fun unhurried => ?_) fun _ _ _ => rfl
        refine unhurried.onTask marks (fun _ _ _ => List.mem_cons_self) rfl rfl ?_
        exact fun _ _ waits => List.mem_cons_of_mem waiter waits
      · intro outcome first second inside
        refine ends _ outcome _ _ (inside.changed
          (Session.onTask waiter fun task => { task with waitingFor := none }) (fun unhurried => ?_)
          fun _ _ _ => rfl)
        refine unhurried.onTask marks (fun _ _ impossible => absurd rfl impossible) rfl rfl ?_
        exact fun other different waits => (List.mem_cons.mp waits).resolve_left different

theorem awaitFuture (future : Value) :
    Act.MirrorsAll (Timeless nesting) (shallow.awaitFuture future) (deep.awaitFuture future) := by
  unfold Interpreter.awaitFuture
  split
  · split
    · exact .pure trivial
    · exact .fail _
  · rename_i id _
    apply timeless_scheduler
    intro session settings _
    rw [Scheduler.task?_paced]
    cases session.scheduler.task? id with
    | none => exact .fail _
    | some task =>
        dsimp only
        split
        · exact .bind (pace.awaitTask id) fun _ _ => timeless_slotOf id
        · exact timeless_slotOf id

theorem evalExpr {expr : Expr} (timeless : expr.usesTimers = false) :
    Act.MirrorsAll (Timeless nesting) (shallow.evalExpr expr) (deep.evalExpr expr) := by
  cases expr with
  | lit value => exact .pure trivial
  | var name => exact timeless_readPlace name
  | field base name => exact .bind (pace.eval nesting base timeless) fun _ _ => timeless_ofExcept _
  | binary operator left right =>
      obtain ⟨first, second⟩ := Bool.or_eq_false_iff.mp timeless
      exact mirrors_evalBinary (pace.eval nesting left first) (pace.eval nesting right second) operator
  | unary operator operand =>
      exact .bind (pace.eval nesting operand timeless) fun _ _ => timeless_ofExcept _
  | structLit typeName fields =>
      have given := anyFieldUsesTimers_eq_false timeless
      refine .bind (mirrors_evalFields fun field member => ?_) fun given _ => ?_
      · exact pace.eval nesting field.2 (given field member)
      · exact timeless_executor fun _ _ => timeless_ofExcept _
  | call name args => exact pace.callFunction name timeless
  | methodCall receiver method args => exact pace.callMethod receiver method timeless
  | await future =>
      exact .bind (pace.eval nesting future timeless) fun value _ => pace.awaitFuture value
  | sleep millis => cases timeless
  | timeout future millis => cases timeless

/-! ### Statements -/

theorem endIteration :
    Act.MirrorsAll (Timeless nesting) shallow.endIteration deep.endIteration := by
  apply timeless_executor
  intro session _
  split
  · split
    · exact .bind (timeless_note _ _) fun _ _ => .raise _
    · exact .pure trivial
  · apply timeless_scheduler
    intro session settings _
    rw [Scheduler.hasQueued_paced]
    split
    · exact pace.runOneCycle
    · exact .pure trivial

theorem perform (path : Path) {statement : Stmt} (timeless : statement.usesTimers = false) :
    Act.MirrorsAll (Timeless nesting) (shallow.perform path statement)
      (deep.perform path statement) := by
  have twinning := Timeless.twinning nesting
  -- No statement has timers of its own: it is timeless if its parts are.
  cases statement with
  | letVar name value =>
      refine .bind (pace.eval nesting value timeless) fun value _ => ?_
      exact .bind (timeless_bindFutureTo _ value) fun _ _ => timeless_updateScopes _
  | assign target value =>
      refine .bind (pace.eval nesting value timeless) fun value _ => ?_
      exact .bind (timeless_bindFutureTo _ value) fun _ _ => timeless_writePlace target value
  | expression value => exact .bind (pace.eval nesting value timeless) fun _ _ => .pure trivial
  | print value =>
      refine .bind (pace.eval nesting value timeless) fun value _ => ?_
      exact timeless_updateExecutor (fun _ => rfl) fun _ current => current
  | returning value =>
      cases value with
      | none => exact .raise _
      | some value => exact .bind (pace.eval nesting value timeless) fun _ _ => .raise _
  | yield =>
      apply timeless_executor
      intro session _
      split
      · exact .raise _
      · exact pace.runOneCycle
  | ifThen condition thenBranch elseBranch =>
      obtain ⟨rest, second⟩ := Bool.or_eq_false_iff.mp timeless
      obtain ⟨tested, first⟩ := Bool.or_eq_false_iff.mp rest
      exact twinning.execIf (pace.eval nesting condition tested)
        (pace.each (anyStatementUsesTimers_eq_false first))
        (pace.each (anyStatementUsesTimers_eq_false second)) path
  | whileLoop condition body =>
      obtain ⟨tested, inner⟩ := Bool.or_eq_false_iff.mp timeless
      refine twinning.execLoop pace.turns (fun expr same => ?_) (fun _ impossible => ?_)
        (pace.each (anyStatementUsesTimers_eq_false inner)) pace.endIteration path
      · cases same
        exact pace.eval nesting condition tested
      · cases impossible
  | forLoop init condition update body =>
      obtain ⟨rest, inner⟩ := Bool.or_eq_false_iff.mp timeless
      obtain ⟨rest, updated⟩ := Bool.or_eq_false_iff.mp rest
      obtain ⟨started, tested⟩ := Bool.or_eq_false_iff.mp rest
      refine twinning.execFor pace.turns (fun expr same => ?_)
        (pace.each (partUsesTimers_eq_false updated))
        (pace.each (anyStatementUsesTimers_eq_false inner)) pace.endIteration
        (pace.each (partUsesTimers_eq_false started)) (fun _ _ => trivial) path
      subst same
      exact pace.eval nesting expr tested
  | block body => exact twinning.execBlock (pace.each (anyStatementUsesTimers_eq_false timeless)) _
  | breakLoop => exact .raise _
  | continueLoop => exact .raise _

end Interpreter.KeepsPace

theorem interpreter_keepsPace {depth deeper : Nat} (fewer : depth ≤ deeper) :
    (interpreter depth).KeepsPace (interpreter deeper) := by
  induction depth generalizing deeper with
  | zero => exact ⟨fun _ _ _ => .halt _, fun _ _ _ _ => .halt _, Nat.zero_le _⟩
  | succ depth ih =>
      obtain ⟨more, rfl⟩ : ∃ more, deeper = more + 1 := ⟨deeper - 1, by omega⟩
      have pace := ih (Nat.le_of_succ_le_succ fewer)
      exact ⟨fun _ _ timeless => pace.evalExpr timeless,
        fun nesting path _ timeless =>
          (Timeless.twinning nesting).execStmt (pace.perform path timeless),
        Nat.le_of_succ_le_succ fewer⟩

/-! ### Programs -/

theorem Executor.functions_load {program : Program} {executor : Executor} {name : String}
    {function : FunctionDecl}
    (found : Bindings.get? name (executor.load program).functions = some function) :
    function ∈ program.functions ∨ Bindings.get? name executor.functions = some function := by
  have defined (added : List FunctionDecl) (known : Executor) :
      Bindings.get? name (added.foldl (fun known function => known.defineFunction function)
        known).functions = some function →
      function ∈ added ∨ Bindings.get? name known.functions = some function := by
    induction added generalizing known with
    | nil => exact .inr
    | cons first rest ih =>
        intro found
        rcases ih (known.defineFunction first) found with later | here
        · exact .inl (List.mem_cons_of_mem first later)
        · change Bindings.get? name (Bindings.insert first.qualifiedName first known.functions) =
            some function at here
          by_cases same : name = first.qualifiedName
          · rw [same, Bindings.get?_insert_self] at here
            cases here
            exact .inl List.mem_cons_self
          · rw [Bindings.get?_insert_of_ne same] at here
            exact .inr here
  have declared (added : List StructDecl) (known : Executor) :
      (added.foldl (fun known decl => known.defineStruct decl) known).functions = known.functions := by
    induction added generalizing known with
    | nil => rfl
    | cons first rest ih => exact ih (known.defineStruct first)
  rw [← declared program.structs executor]
  exact defined program.functions _ found

theorem Session.Unhurried.load {nesting : Nesting} {session : Session}
    (unhurried : session.Unhurried nesting) {program : Program}
    (timeless : program.functions.any FunctionDecl.usesTimers = false) :
    { session with executor := session.executor.load program }.Unhurried nesting := by
  have current : (session.executor.load program).currentTask = session.executor.currentTask := by
    rw [Executor.load_eq]
  refine
    { unhurried with
      functions := fun name function found => ?_
      current := fun id runs => unhurried.current id (current.symm.trans runs) }
  rcases Executor.functions_load found with declared | known
  · exact Bool.eq_false_iff.mpr (List.any_eq_false.mp timeless function declared)
  · exact unhurried.functions name function known

namespace Interpreter.KeepsPace

variable {nesting : Nesting} {shallow deep : Interpreter} (pace : shallow.KeepsPace deep)

include pace

theorem runMain {statements : List Stmt} (timeless : anyStatementUsesTimers statements = false)
    (index : Nat) :
    Act.MirrorsAll (Timeless nesting) (shallow.runMain index statements)
      (deep.runMain index statements) := by
  induction statements generalizing index with
  | nil => exact .pure trivial
  | cons statement rest ih =>
      obtain ⟨here, later⟩ := Bool.or_eq_false_iff.mp timeless
      refine .attempt (pace.exec nesting [.item index] statement here) fun outcome => ?_
      cases outcome with
      | ok value =>
          apply timeless_executor
          intro session _
          split
          · apply timeless_scheduler
            intro session settings _
            rw [Scheduler.hasQueued_paced]
            split
            · exact .bind pace.runOneCycle fun _ _ => ih later (index + 1)
            · exact ih later (index + 1)
          · exact ih later (index + 1)
      | error signal =>
          cases signal with
          | returning value => exact .pure trivial
          | suspend fromLoop => exact .fail _
          | breakLoop => exact .fail _
          | continueLoop => exact .fail _
          | fault cause => exact .fail _

theorem runProgram {program : Program} (timeless : program.usesTimers = false) :
    Act.MirrorsAll (Timeless nesting) (shallow.runProgram program) (deep.runProgram program) := by
  obtain ⟨functions, main⟩ := Bool.or_eq_false_iff.mp timeless
  have load : Act.MirrorsAll (Timeless nesting) (Act.load program) (Act.load program) := by
    refine .bind (timeless_update ?_ fun _ _ _ _ => rfl) fun _ _ => ?_
    · exact fun _ unhurried => unhurried.load functions
    · exact timeless_executor fun _ _ => timeless_note _ _
  refine .bind load fun _ _ => ?_
  refine .bind (timeless_note _ _) fun _ _ => ?_
  refine .bind (pace.runMain main 0) fun _ _ => ?_
  refine .bind (timeless_run (fun id => pace.exec (nesting.stepping id)) pace.turns) fun _ _ => ?_
  exact timeless_scheduler fun _ _ _ => timeless_note _ _

end Interpreter.KeepsPace

/-! ### Ends of programs -/

def Session.fresh (settings : Settings) (clock : Clock) : Session :=
  { Session.start settings 0 with clock }

/-- The same settings, with another pause for a scheduler that finds every task blocked. -/
def Settings.pausing (millis : Nat) (settings : Settings) : Settings :=
  { settings with scheduler := { settings.scheduler with idleBackoffMs := millis } }

/-- The program comes to an end, of whatever kind, for an interpreter of the given depth. -/
def Program.EndsIn (program : Program) (depth : Nat) (start : Session) (result : Except Signal Unit)
    (after : Session) : Prop :=
  (interpreter depth).runProgram program start = .of after result

/-- The two sessions have printed the same and have the same globals, tasks and statistics. In neither has
a step been blocked, or the scheduler paused. -/
structure Session.SameEnd (first second : Session) : Prop where
  /-- All that is visible to a program, the printed lines and the globals among it. -/
  executor : second.executor = first.executor
  tasks : second.scheduler.tasks = first.scheduler.tasks
  queue : second.scheduler.queue = first.scheduler.queue
  statistics : second.scheduler.statistics = first.scheduler.statistics
  blocked : first.scheduler.statistics.stepsBlocked = 0
  pauses : first.scheduler.statistics.idleBackoffs = 0

theorem Session.Timeless.sameEnd {nesting : Nesting} {first second : Session}
    (timeless : Timeless nesting first second) : first.SameEnd second ∧ second.SameEnd first := by
  obtain ⟨unhurried, settings, clock, journal, rfl⟩ := timeless
  exact ⟨⟨rfl, rfl, rfl, rfl, unhurried.blocked, unhurried.pauses⟩,
    ⟨rfl, rfl, rfl, rfl, unhurried.blocked, unhurried.pauses⟩⟩

theorem Session.timeless_fresh (settings : Settings) (pause pause' : Nat) (clock clock' : Clock) :
    Timeless .outermost (fresh (settings.pausing pause) clock) (fresh (settings.pausing pause') clock') := by
  refine ⟨?_, (settings.pausing pause').scheduler, clock', [], rfl⟩
  refine
    { unlimited := rfl
      functions := fun _ _ impossible => ?_
      current := fun _ impossible => ?_
      active := rfl
      tasks := fun _ _ impossible => ?_
      next := rfl
      queue := List.nodup_nil
      apart := fun _ impossible => absurd impossible List.not_mem_nil
      known := fun _ place => ?_
      blocked := rfl
      pauses := rfl }
  · cases impossible
  · cases impossible
  · cases impossible
  · rcases place with impossible | impossible <;> cases impossible

/-- What one run of a program comes to, runs of the same depth and deeper ones come to at other times. -/
theorem Program.EndsIn.mirrored {program : Program} (timeless : program.usesTimers = false)
    {settings : Settings} {pause : Nat} {clock : Clock} {depth deeper : Nat} (fewer : depth ≤ deeper)
    {result : Except Signal Unit} {after : Session}
    (ended : program.EndsIn depth (.fresh (settings.pausing pause) clock) result after)
    (pause' : Nat) (clock' : Clock) :
    ∃ after', program.EndsIn deeper (.fresh (settings.pausing pause') clock') result after' ∧
      after.SameEnd after' ∧ after'.SameEnd after := by
  unfold Program.EndsIn at ended ⊢
  have mirrored := (interpreter_keepsPace fewer).runProgram timeless _ _
    (Session.timeless_fresh settings pause pause' clock clock')
  rw [ended] at mirrored
  generalize (interpreter deeper).runProgram program _ = outcome at mirrored ⊢
  cases result with
  | ok value =>
      cases mirrored with
      | done _ same => exact ⟨_, rfl, same.sameEnd⟩
  | error signal =>
      cases mirrored with
      | raised same => exact ⟨_, rfl, same.sameEnd⟩

/-- A program without timers does not depend on the clock. Run at two different times, with different
pauses, it comes to an end in both cases or in none, whatever the depth; and it is the same end. -/
theorem clock_is_irrelevant {program : Program} (timeless : program.usesTimers = false)
    (settings : Settings) (pause pause' : Nat) (clock clock' : Clock) :
    (∀ depth,
      (∃ result after, program.EndsIn depth (.fresh (settings.pausing pause) clock) result after) ↔
        ∃ result after, program.EndsIn depth (.fresh (settings.pausing pause') clock') result after) ∧
    ∀ depth depth' result after result' after',
      program.EndsIn depth (.fresh (settings.pausing pause) clock) result after →
      program.EndsIn depth' (.fresh (settings.pausing pause') clock') result' after' →
      result' = result ∧ after.SameEnd after' := by
  refine ⟨fun depth => ⟨?_, ?_⟩, ?_⟩
  · rintro ⟨result, after, ended⟩
    obtain ⟨after', ended', _⟩ := ended.mirrored timeless (Nat.le_refl depth) pause' clock'
    exact ⟨result, after', ended'⟩
  · rintro ⟨result, after, ended⟩
    obtain ⟨after', ended', _⟩ := ended.mirrored timeless (Nat.le_refl depth) pause clock
    exact ⟨result, after', ended'⟩
  · intro depth depth' result after result' after' ended ended'
    -- The shallower of the two runs is mirrored at the depth of the other.
    rcases Nat.le_total depth depth' with fewer | fewer
    · obtain ⟨other, deeper, same, _⟩ := ended.mirrored timeless fewer pause' clock'
      obtain ⟨rfl, rfl⟩ := Outcome.of_inj (Eq.trans (Eq.symm ended') deeper)
      exact ⟨rfl, same⟩
    · obtain ⟨other, deeper, _, same⟩ := ended'.mirrored timeless fewer pause clock
      obtain ⟨rfl, rfl⟩ := Outcome.of_inj (Eq.trans (Eq.symm ended) deeper)
      exact ⟨rfl, same⟩

/-- A program in which one task waits for another one. -/
def relaying : Program where
  structs := []
  functions :=
    [{ name := "give", params := [], body := [.yield, .returning (some (.lit (.int 5)))],
       isAsync := true, owner := none },
     { name := "pass", params := [], body := [.returning (some (.await (.call "give" [])))],
       isAsync := true, owner := none }]
  main := [.print (.await (.call "pass" []))]

theorem clock_is_irrelevant_relaying :
    relaying.usesTimers = false ∧
    ∃ after after', relaying.EndsIn 20 (.fresh (Settings.pausing 1 {}) {}) (.ok ()) after ∧
      relaying.EndsIn 20 (.fresh (Settings.pausing 250 {}) ⟨1000, 7⟩) (.ok ()) after' ∧
      after.SameEnd after' ∧ after.scheduler.tasks.length = 2 ∧ after.executor.output.size = 1 := by
  let run := (interpreter 20).runProgram relaying (.fresh (Settings.pausing 1 {}) {})
  have timeless : relaying.usesTimers = false := by decide
  have ends : run.isDone = true := by decide +kernel
  have tasks : run.session.scheduler.tasks.length = 2 := by decide +kernel
  have lines : run.session.executor.output.size = 1 := by decide +kernel
  obtain ⟨_, same⟩ := Outcome.eq_done ends
  have ended : relaying.EndsIn 20 (.fresh (Settings.pausing 1 {}) {}) (.ok ()) run.session := same
  have irrelevant := clock_is_irrelevant timeless {} 1 250 {} ⟨1000, 7⟩
  obtain ⟨result', after', ended'⟩ := (irrelevant.1 20).mp ⟨.ok (), run.session, ended⟩
  obtain ⟨rfl, sameEnd⟩ := irrelevant.2 _ _ _ _ _ _ ended ended'
  exact ⟨timeless, run.session, after', ended, ended', sameEnd, tasks, lines⟩

end CooperativeTasks
