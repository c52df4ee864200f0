import CooperativeTasks.Proofs.Composition

set_option autoImplicit false

/-! Interpreters of one depth and of another.

`Deepens` says that two actions are put together alike, except that the first may be halted where
the second goes on. What holds of the pieces and is kept by the joins then holds of everything that
an interpreter of any depth does. -/

namespace CooperativeTasks

variable {α β σ : Type}

/-! ### The pieces -/

/-- What programs, and those who drive the scheduler, set on a task. None of it has to do with
how far the task has come. -/
inductive TaskMark : (Task → Task) → Prop where
  | sleep (wakeAt : Nat) : TaskMark fun task => { task with wakeAt := some wakeAt }
  | timeout (deadline : Nat) : TaskMark fun task => { task with deadline := some deadline }
  | wait (awaited : Option TaskId) : TaskMark fun task => { task with waitingFor := awaited }
  | future (site : BindingSite) : TaskMark fun task => { task with futureSite := some site }

/-- A change that a running program makes to its session on its own. -/
inductive Move : (Session → Session) → Prop where
  | record (event : Event) (aside : event.isOfQueue = false) :
      Move fun session => { session with journal := event :: session.journal }
  | tick :
      Move fun session =>
        { session with
          clock := { session.clock with now := session.clock.now + session.clock.tick } }
  | pause (nanos : Nat) :
      Move fun session =>
        { session with clock := { session.clock with now := session.clock.now + nanos } }
  | countPause :
      Move fun session =>
        { session with
          scheduler := session.scheduler.countWith fun statistics =>
            { statistics with idleBackoffs := statistics.idleBackoffs + 1 } }
  | write {change : ScopeStack → ScopeStack} (writes : ScopeWrite change) :
      Move fun session =>
        { session with
          executor := { session.executor with scopes := change session.executor.scopes } }
  | print (line : String) :
      Move fun session =>
        { session with
          executor := { session.executor with output := session.executor.output.push line } }
  | mark (id : TaskId) {change : Task → Task} (marks : TaskMark change) :
      Move fun session => { session with scheduler := session.scheduler.modifyTask id change }

/-- Evaluating an expression leaves the positions of the running body alone and raises nothing
but faults; executing a statement is free to do both. -/
inductive Layer where
  | expression
  | statement

/-- The second action does what the first does, and goes on where the first is halted. -/
inductive Deepens : Layer → {α : Type} → Act α → Act α → Prop where
  | halt {layer : Layer} {α : Type} : Deepens layer (Act.halt : Act α) Act.halt
  | cut {layer : Layer} {α : Type} {deep : Act α} (whole : Deepens layer deep deep) :
      Deepens layer Act.halt deep
  | pure {layer : Layer} {α : Type} (value : α) : Deepens layer (Pure.pure value) (Pure.pure value)
  | fail {layer : Layer} {α : Type} (cause : Fault) :
      Deepens layer (Act.fail cause : Act α) (Act.fail cause)
  | raise {α : Type} (signal : Signal) :
      Deepens .statement (Act.raise signal : Act α) (Act.raise signal)
  | moment {layer : Layer} : Deepens layer Act.moment Act.moment
  | read {layer : Layer} {α : Type} {view : Session → α}
      (blind : ∀ session budget, view { session with budget } = view session) :
      Deepens layer (Act.read view) (Act.read view)
  | move {layer : Layer} {change : Session → Session} (moves : Move change) :
      Deepens layer (Act.update change) (Act.update change)
  | positions (change : Positions → Positions) :
      Deepens .statement (Act.updatePositions change) (Act.updatePositions change)
  | register {layer : Layer} {task : Task} (fresh : task.Fresh) :
      Deepens layer (Act.register task) (Act.register task)
  | finalize {layer : Layer} (id : TaskId) : Deepens layer (Act.finalize id) (Act.finalize id)
  | bind {layer : Layer} {α β : Type} {first first' : Act α} {next next' : α → Act β}
      (head : Deepens layer first first') (tail : ∀ value, Deepens layer (next value) (next' value)) :
      Deepens layer (first >>= next) (first' >>= next')
  | attempt {layer : Layer} {α β : Type} {action action' : Act α}
      {next next' : Except Signal α → Act β} (inner : Deepens layer action action')
      (tail : ∀ outcome, Deepens layer (next outcome) (next' outcome))
      (rethrows : ∀ cause, (next' (.error (.fault cause))).Rethrows cause) :
      Deepens layer (Act.attempt action >>= next) (Act.attempt action' >>= next')
  | lift {α : Type} {action action' : Act α} (inner : Deepens .expression action action') :
      Deepens .statement action action'
  | calling (name : String) {scope : Scope} (new : scope.id = none) {body body' : Act Unit}
      (inner : Deepens .statement body body') :
      Deepens .expression (Act.calling name scope body) (Act.calling name scope body')
  | awaiting (id : TaskId) {drive drive' : Act Unit} (inner : Deepens .expression drive drive') :
      Deepens .expression (Act.awaiting id drive) (Act.awaiting id drive')
  | cycle {shallow : Interpreter} {depth : Nat}
      (exec : ∀ path statement,
        Deepens .statement (shallow.exec path statement)
          ((interpreter depth).exec path statement)) :
      Deepens .expression shallow.cycle (interpreter depth).cycle

namespace Deepens

theorem right {layer : Layer} {action action' : Act α} (deepens : Deepens layer action action') :
    Deepens layer action' action' := by
  induction deepens with
  | halt => exact .halt
  | cut whole _ => exact whole
  | pure value => exact .pure value
  | fail cause => exact .fail cause
  | raise signal => exact .raise signal
  | moment => exact .moment
  | read blind => exact .read blind
  | move moves => exact .move moves
  | positions change => exact .positions change
  | register fresh => exact .register fresh
  | finalize id => exact .finalize id
  | bind _ _ head tail => exact .bind head tail
  | attempt _ _ rethrows inner tail => exact .attempt inner tail rethrows
  | lift _ inner => exact .lift inner
  | calling name new _ inner => exact .calling name new inner
  | awaiting id _ inner => exact .awaiting id inner
  | cycle _ exec => exact .cycle exec

variable {layer : Layer}

theorem executor : Deepens layer Act.executor Act.executor :=
  .read fun _ _ => rfl

theorem scheduler : Deepens layer Act.scheduler Act.scheduler :=
  .read fun _ _ => rfl

theorem note (event : Event) (aside : event.isOfQueue = false := by rfl) :
    Deepens layer (Act.note event) (Act.note event) := by
  rw [Act.note_eq]
  exact .bind (.move (.record event aside)) fun _ => .moment

theorem ofAttempt (outcome : Except Signal α) :
    Deepens .statement (Act.ofAttempt outcome) (Act.ofAttempt outcome) := by
  cases outcome with
  | ok value => exact .pure value
  | error signal => exact .raise signal

theorem iterate {turns turns' : Nat} (fewer : turns ≤ turns') {action action' : σ → Act (Option σ)}
    (inner : ∀ state, Deepens layer (action state) (action' state)) (state : σ) :
    Deepens layer (Act.iterate turns action state) (Act.iterate turns' action' state) := by
  induction turns generalizing turns' state action with
  | zero =>
      refine .cut ?_
      induction turns' generalizing state with
      | zero => exact .halt
      | succ turns' ih =>
          rw [Act.iterate_succ]
          refine .bind (inner state).right fun next => ?_
          cases next with
          | none => exact .pure ()
          | some next => exact ih (Nat.zero_le _) next
  | succ turns ih =>
      obtain ⟨more, rfl⟩ : ∃ more, turns' = more + 1 := ⟨turns' - 1, by omega⟩
      rw [Act.iterate_succ, Act.iterate_succ]
      refine .bind (inner state) fun next => ?_
      cases next with
      | none => exact .pure ()
      | some next => exact ih (by omega) inner next

/-! ### Timers -/

theorem readClock : Deepens layer Act.readClock Act.readClock := by
  rw [Act.readClock_eq]
  refine .bind (.read fun _ _ => rfl) fun now => ?_
  exact .bind (.move .tick) fun _ => .pure now

theorem sleepTask (id : TaskId) (millis : Nat) :
    Deepens layer (Act.sleepTask id millis) (Act.sleepTask id millis) := by
  refine .bind .readClock fun now => ?_
  refine .bind .scheduler fun scheduler => ?_
  split
  · exact .bind (.move (.mark id (.sleep _))) fun _ => .note _
  · exact .pure ()

theorem setTimeout (id : TaskId) (millis : Nat) :
    Deepens layer (Act.setTimeout id millis) (Act.setTimeout id millis) := by
  refine .bind .readClock fun now => ?_
  refine .bind .scheduler fun scheduler => ?_
  split
  · exact .bind (.move (.mark id (.timeout _))) fun _ => .note _
  · exact .pure ()

/-! ### Everything that an interpreter does -/

theorem joins (layer : Layer) : Act.Joins (@Deepens layer) where
  pure := .pure
  fail := .fail
  read := .read
  note event _ aside := .note event aside
  bind := .bind
  attempt := .attempt
  iterate := .iterate

theorem write {change : ScopeStack → ScopeStack} (writes : ScopeWrite change) :
    Deepens layer (Act.updateScopes change) (Act.updateScopes change) :=
  .move (.write writes)

theorem bindFutureTo (site : Executor → Option BindingSite) (value : Value) :
    Deepens layer (Interpreter.bindFutureTo site value) (Interpreter.bindFutureTo site value) :=
  (joins layer).bindFutureTo (fun id site => .move (.mark id (.future site))) site value

theorem writePlace (name : String) (value : Value) :
    Deepens layer (Act.writePlace name value) (Act.writePlace name value) :=
  (joins layer).writePlace .write name value

theorem storeLocal (name : String) (value : Value) :
    Deepens layer (Interpreter.storeLocal name value) (Interpreter.storeLocal name value) :=
  .bind (.bindFutureTo _ value) fun _ => .write (.define name value)

theorem storeAt (target : String) (value : Value) :
    Deepens layer (Interpreter.storeAt target value) (Interpreter.storeAt target value) :=
  .bind (.bindFutureTo _ value) fun _ => .writePlace target value

theorem storing {shallow deep : Interpreter} (path : Path) {statement : Stmt} {expr : Expr}
    {pinned : Executor → Option BindingSite} {write : Value → ScopeStack → ScopeStack}
    (stores : statement.Stores expr pinned write)
    (eval : Deepens .expression (shallow.eval expr) (deep.eval expr)) :
    Deepens .statement (shallow.perform path statement) (deep.perform path statement) := by
  cases stores with
  | letVar name => exact .bind (.lift eval) fun value => .storeLocal name value
  | assign target => exact .bind (.lift eval) fun value => .storeAt target value

theorem concluded {action action' : Act Unit} (inner : Deepens .statement action action') :
    Deepens .statement action.concluded action'.concluded :=
  (joins _).concluded .moment .raise inner

theorem pieces :
    Interpreter.Pieces (@Deepens .expression) (@Deepens .expression) (@Deepens .statement) where
  driving := joins _
  evaluating := joins _
  executing := joins _
  drive := .lift
  evaluate := .lift
  cycle := .cycle
  idle swept := by
    refine .bind (.move .countPause) fun _ => ?_
    refine .bind .scheduler fun scheduler => ?_
    exact .bind (.move (.pause _)) fun _ => .note _
  finalize := .finalize
  register := .register
  sleepTask := .sleepTask
  setTimeout := .setTimeout
  write := .write
  calling := .calling
  awaiting id inner := by
    refine .bind .scheduler fun scheduler => ?_
    split
    · exact .pure ()
    · split
      · exact .awaiting id inner
      · exact .pure ()
  raise := .raise
  moment := .moment
  positions := .positions
  print line := .move (.print line)
  stores path _ _ _ _ stores eval := .bind .moment fun _ => .concluded (.storing path stores eval)

end Deepens

/-- As `Deepens`, of everything that an interpreter does. -/
structure Interpreter.DeepensTo (shallow deep : Interpreter) : Prop where
  depth : ∃ depth, deep = interpreter depth
  eval : ∀ expr, Deepens .expression (shallow.eval expr) (deep.eval expr)
  exec : ∀ path statement,
    Deepens .statement (shallow.exec path statement) (deep.exec path statement)
  turns : shallow.turns ≤ deep.turns

namespace Interpreter.DeepensTo

variable {shallow deep : Interpreter} (deepens : shallow.DeepensTo deep)

include deepens

theorem related :
    Related (@Deepens .expression) (@Deepens .expression) (@Deepens .statement) shallow deep :=
  ⟨Deepens.pieces, deepens.depth, deepens.eval, deepens.exec, deepens.turns⟩

theorem awaitTask (id : TaskId) :
    Deepens .expression (shallow.awaitTask id) (deep.awaitTask id) := by
  rw [awaitTask_eq, awaitTask_eq]
  exact .awaiting id (deepens.related.runUntilComplete id)

theorem perform (path : Path) (statement : Stmt) :
    Deepens .statement (shallow.perform path statement) (deep.perform path statement) := by
  cases statement with
  | letVar name value => exact .storing path (.letVar name value) (deepens.eval value)
  | assign target value => exact .storing path (.assign target value) (deepens.eval value)
  | _ => exact deepens.related.perform path (by rintro _ _ ⟨⟩) (by rintro _ _ ⟨⟩)

end Interpreter.DeepensTo

/-- An interpreter does the same at every depth, as far as it comes. -/
theorem interpreter_deepens {shallow deep : Nat} (deeper : shallow ≤ deep) :
    (interpreter shallow).DeepensTo (interpreter deep) := by
  have itself (depth : Nat) := Deepens.pieces.interpreter .halt .halt depth
  induction shallow generalizing deep with
  | zero =>
      refine ⟨⟨deep, rfl⟩, fun expr => ?_, fun path statement => ?_, Nat.zero_le _⟩
      · exact .cut ((itself deep).eval expr)
      · exact .cut ((itself deep).exec path statement)
  | succ shallow ih =>
      obtain ⟨deep, rfl⟩ : ∃ lower, deep = lower + 1 := ⟨deep - 1, by omega⟩
      have lower := ih (Nat.le_of_succ_le_succ deeper)
      exact ⟨⟨deep + 1, rfl⟩, lower.related.evalExpr, lower.related.execStmt,
        Nat.le_of_succ_le_succ deeper⟩

end CooperativeTasks
