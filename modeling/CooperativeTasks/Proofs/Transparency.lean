import CooperativeTasks.Proofs.SingleTask

set_option autoImplicit false

/-! Suspension is transparent.

A plain body that is spawned as the only task and driven to its end prints what it prints when it
is executed in one go, leaves the same globals and the same private bindings, and comes to the same
result or fault. The turns of the task are followed statement by statement: what a statement
settles on has been shown, so that only the way from one turn to the next is left. -/

namespace CooperativeTasks

/-- The value or the fault to which a body amounts that ended in this way. -/
def bodyResult : Except Signal Unit → Except Fault Value
  | .ok () => .ok .void
  | .error (.returning value) => .ok value
  | .error signal => .error signal.toFault

/-- The drive of the only task has come to the end to which its body comes in one go. -/
inductive Agrees (scopes : ScopeStack) (output : Array String) :
    Except Fault Value → Outcome Unit → Prop where
  | finished {value : Value} {after : Session} (printed : after.executor.output = output)
      (globals : after.executor.scopes.global = scopes.global)
      (concluded : Interpreter.Concluded value scopes.current.bindings after) :
      Agrees scopes output (.ok value) (.done () after)
  | faulted {cause : Fault} {after : Session} (printed : after.executor.output = output)
      (globals : after.executor.scopes.global = scopes.global) :
      Agrees scopes output (.error cause) (.raised (.fault cause) after)

namespace Interpreter

variable {interpreter : Interpreter} {scopes : ScopeStack} {output : Array String}
  {ending : Except Fault Value} {session after : Session}

/-! ### Drives -/

/-- The turns of the only task lead to the last one, in which its body is over or faults. -/
inductive Closes (interpreter : Interpreter) (function : FunctionDecl) (receiver : Option Receiver)
    (height : Nat) (scopes : ScopeStack) (output : Array String) :
    Except Fault Value → Session → Prop where
  | turn {ending : Except Fault Value} {session after : Session}
      (unfinished : session.scheduler.isFinished onlyTask = false)
      (turns : interpreter.turn [] session = .done (some []) after)
      (closes : Closes interpreter function receiver height scopes output ending after) :
      Closes interpreter function receiver height scopes output ending session
  | closed {value : Value} {session completed : Session}
      (unfinished : session.scheduler.isFinished onlyTask = false)
      (turns : interpreter.turn [] session = concluding onlyTask .done completed)
      (printed : completed.executor.output = output)
      (globals : completed.executor.scopes.global = scopes.global)
      (closing : Over function receiver height value scopes.current.bindings completed) :
      Closes interpreter function receiver height scopes output (.ok value) session
  | faulted {cause : Fault} {session after : Session}
      (unfinished : session.scheduler.isFinished onlyTask = false)
      (turns : interpreter.turn [] session = .raised (.fault cause) after)
      (printed : after.executor.output = output)
      (globals : after.executor.scopes.global = scopes.global) (unlimited : after.budget = none) :
      Closes interpreter function receiver height scopes output (.error cause) session

variable {function : FunctionDecl} {receiver : Option Receiver} {height index : Nat}

theorem Closes.agrees (closes : interpreter.Closes function none height scopes output ending session) :
    ∃ turns, Agrees scopes output ending (Act.iterate turns interpreter.turn [] session) := by
  induction closes with
  | turn unfinished turns closes ih =>
      obtain ⟨more, agrees⟩ := ih
      refine ⟨more + 1, ?_⟩
      rw [Act.iterate, turns]
      exact agrees
  | closed unfinished turns printed globals closing =>
      obtain ⟨concludes, concluded⟩ := closing.concludes
      refine ⟨2, ?_⟩
      rw [Act.iterate, turns, concludes]
      dsimp only
      rw [Act.iterate, turn_empty concluded.queue]
      exact .finished printed globals concluded
  | faulted unfinished turns printed globals unlimited =>
      refine ⟨1, ?_⟩
      rw [Act.iterate, turns]
      exact .faulted printed globals

/-! ### Turns -/

/-- The only task has a turn, in which it executes the statement. -/
structure Turning (interpreter : Interpreter) (function : FunctionDecl)
    (receiver : Option Receiver) (height index : Nat) (statement : Stmt) (task : Task)
    (session start : Session) : Prop where
  parked : Resting function receiver height start.executor task session
  underway : Underway task.start start
  counter : task.start.counter = index
  turns : interpreter.turn [] session =
    turnEnding onlyTask (stepEnding onlyTask task.start session.executor
      (interpreter.exec [.item index] statement start))

variable {statement : Stmt} {task : Task} {start : Session}

variable (interpreter) in
theorem turning_of_parked {stopped : Session} {rest : List Stmt}
    (here : function.body.drop index = statement :: rest)
    (parked : Resting function receiver height stopped.executor task session)
    (counter : task.counter = index) :
    ∃ start, start.executor = stopped.executor ∧
      interpreter.Turning function receiver height index statement task session start := by
  subst counter
  have statements : task.start.statements = function.body := by
    unfold Task.statements
    rw [parked.solitary.start.body]
  have found : task.start.statements[task.start.counter]? = some statement := by
    rw [statements, task.counter_start]
    exact getElem?_of_drop here
  obtain ⟨start, enters, underway, turns⟩ := @turn_executes interpreter _ _ _ _ _ _ parked _ found
  rw [← enters] at parked
  rw [task.counter_start] at turns
  exact ⟨start, enters, parked, underway, task.counter_start, turns⟩

namespace Turning

variable (turning : interpreter.Turning function receiver height index statement task session start)
  {left : Session} (ran : Ran start left)

include turning ran

theorem goesOn {outcome : Outcome Unit} (next : Nat → Nat)
    (run : interpreter.exec [.item index] statement start = outcome)
    (pending : stepEnding onlyTask task.start session.executor outcome =
      .done .pending ((left.leavingTask onlyTask task.start session.executor).onTask onlyTask
        (setAside left next))) :
    ∃ after resting, interpreter.turn [] session = .done (some []) after ∧
      Resting function receiver height left.executor resting after ∧ resting.counter = next index := by
  obtain ⟨after, concludes, parked⟩ := parks turning.parked turning.underway ran next
  refine ⟨after, _, ?_, parked, ?_⟩
  · rw [turning.turns, run, pending]
    exact concludes
  · rw [← turning.counter]
    rfl

theorem suspends {fromLoop : Bool}
    (run : interpreter.exec [.item index] statement start = .raised (.suspend fromLoop) left) :
    ∃ after resting, interpreter.turn [] session = .done (some []) after ∧
      Resting function receiver height left.executor resting after ∧
      resting.counter = if fromLoop then index else index + 1 := by
  obtain ⟨scope, -, -⟩ := scope_left turning.parked ran
  refine turning.goesOn ran (fun counter => if fromLoop then counter else counter + 1) run ?_
  unfold stepEnding setAside
  dsimp only
  rw [scope]

theorem advances (run : interpreter.exec [.item index] statement start = .done () left)
    (more : ¬ function.body.length ≤ index + 1) :
    ∃ after resting, interpreter.turn [] session = .done (some []) after ∧
      Resting function receiver height left.executor resting after ∧ resting.counter = index + 1 := by
  obtain ⟨scope, -, -⟩ := scope_left turning.parked ran
  refine turning.goesOn ran (fun counter => counter + 1) run ?_
  have length : ¬ task.start.statements.length ≤ task.start.counter + 1 := by
    unfold Task.statements
    rw [turning.parked.solitary.start.body, turning.counter]
    exact more
  unfold stepEnding setAside
  dsimp only
  rw [if_neg length, scope]

theorem finishes {outcome : Outcome Unit} {value : Value} {change : Task → Task}
    (run : interpreter.exec [.item index] statement start = outcome)
    (done : stepEnding onlyTask task.start session.executor outcome =
      .done .done (((left.leavingTask onlyTask task.start session.executor).onTask onlyTask
        change).onTask onlyTask (Task.complete value)))
    (scope : (change (stepCounted task.start)).scope = some left.executor.scopes.current)
    (solitary : (change (stepCounted task.start)).Solitary function receiver) :
    interpreter.Closes function receiver height left.executor.scopes left.executor.output (.ok value)
      session := by
  have closing := Interpreter.finishes turning.parked turning.underway ran value scope solitary
  refine .closed turning.parked.unfinished ?_ ?_ ?_ closing
  · rw [turning.turns, run, done]
    rfl
  · rfl
  · rfl

theorem completes (run : interpreter.exec [.item index] statement start = .done () left)
    (last : function.body.length ≤ index + 1) :
    interpreter.Closes function receiver height left.executor.scopes left.executor.output (.ok .void)
      session := by
  obtain ⟨scope, -, -⟩ := scope_left turning.parked ran
  have length : task.start.statements.length ≤ task.start.counter + 1 := by
    unfold Task.statements
    rw [turning.parked.solitary.start.body, turning.counter]
    exact last
  have solitary := turning.parked.solitary.start
  refine @finishes _ _ _ _ _ _ _ _ _ turning _ ran _ .void (setAside left fun counter => counter + 1)
    run ?_ rfl { solitary with }
  unfold stepEnding setAside
  dsimp only
  rw [if_pos length, scope]

theorem returns {value : Value}
    (run : interpreter.exec [.item index] statement start = .raised (.returning value) left) :
    interpreter.Closes function receiver height left.executor.scopes left.executor.output (.ok value)
      session := by
  obtain ⟨scope, -, -⟩ := scope_left turning.parked ran
  have solitary := turning.parked.solitary.start
  refine @finishes _ _ _ _ _ _ _ _ _ turning _ ran _ value
    (fun current => { current with scope := some left.executor.scopes.current }) run ?_ rfl
    { solitary with }
  unfold stepEnding
  dsimp only
  rw [scope]

theorem fails {signal : Signal}
    (run : interpreter.exec [.item index] statement start = .raised signal left)
    (ends : bodyResult (.error signal) = .error signal.toFault)
    (goesOn : ∀ fromLoop, signal ≠ .suspend fromLoop) :
    interpreter.Closes function receiver height left.executor.scopes left.executor.output
      (.error signal.toFault) session := by
  have raises : stepEnding onlyTask task.start session.executor (.raised signal left) =
      .raised (.fault signal.toFault) (left.leavingTask onlyTask task.start session.executor) := by
    cases signal with
    | suspend fromLoop => exact absurd rfl (goesOn fromLoop)
    | returning value => cases ends
    | _ => rfl
  refine @Closes.faulted _ _ _ _ _ _ _ _ (left.leavingTask onlyTask task.start session.executor)
    turning.parked.unfinished ?_ rfl rfl ran.budget
  rw [turning.turns, run, raises]
  rfl

theorem breaks {signal : Signal}
    (run : interpreter.exec [.item index] statement start = .raised signal left)
    (goesOn : ∀ fromLoop, signal ≠ .suspend fromLoop) :
    interpreter.Closes function receiver height left.executor.scopes left.executor.output
      (bodyResult (.error signal)) session := by
  cases signal with
  | returning value => exact turning.returns ran run
  | suspend fromLoop => exact absurd rfl (goesOn fromLoop)
  | breakLoop => exact turning.fails ran run rfl goesOn
  | continueLoop => exact turning.fails ran run rfl goesOn
  | fault cause => exact turning.fails ran run rfl goesOn

end Turning

end Interpreter

/-! ### Bodies -/

open Interpreter in
theorem ran_of_runs {depth : Nat} {path : Path} {statement : Stmt} {segment : Segment}
    {start left : Session} (runs : segment.Runs start left) {result : Except Signal Unit}
    (run : (interpreter depth).exec path statement start = .of left result) : Ran start left := by
  have brackets := ((interpreter_deepens (Nat.le_refl depth)).exec path statement).brackets start
  rw [run] at brackets
  refine ⟨runs.executor, runs.scheduler, runs.budget, ?_⟩
  cases result with
  | ok value => exact brackets.scopes
  | error signal => exact brackets.scopes

theorem resumes_of_executor {segment : Segment} {start left resumed : Session}
    (runs : segment.Runs start left) (same : resumed.executor = left.executor)
    (unlimited : resumed.budget = none) : segment.Resumes left resumed := by
  refine ⟨?_, unlimited, ?_, ?_⟩
  · rw [same]
  · rw [same]
    exact runs.tidy
  · intro mark _
    unfold Session.reads
    rw [same]

section

open Interpreter

variable {depth height index : Nat} {function : FunctionDecl} {receiver : Option Receiver}
  {statement : Stmt} {rest : List Stmt}

theorem turning_again (here : function.body.drop index = statement :: rest) {start after : Session}
    (runs : ((interpreter depth).statementSegment [.item index] statement).Runs start after)
    (run : (interpreter depth).exec [.item index] statement start = .raised (.suspend true) after)
    (inTask : start.InTask) (waiting : Waiting [] function.body index start.executor.positions)
    {task : Task} {session : Session}
    (turning :
      (interpreter depth).Turning function receiver height index statement task session start) :
    ∃ next resting resumed, (interpreter depth).turn [] session = .done (some []) next ∧
      (interpreter depth).Turning function receiver height index statement resting next resumed ∧
      ((interpreter depth).statementSegment [.item index] statement).Resumes after resumed ∧
      resumed.InTask ∧ Waiting [] function.body index resumed.executor.positions := by
  have ran : Ran start after := @ran_of_runs _ _ _ _ _ _ runs (.error _) run
  obtain ⟨next, resting, turns, parked, counter⟩ := turning.suspends ran run
  obtain ⟨resumed, enters, again⟩ := turning_of_parked (interpreter depth) here parked counter
  have resumes : Segment.Resumes _ after resumed :=
    resumes_of_executor runs enters again.underway.budget
  refine ⟨next, resting, resumed, turns, again, resumes, resumes.inTask (runs.inTask inTask), ?_⟩
  rw [enters]
  intro mark within away other
  exact (runs.outside mark away).trans (waiting mark within away other)

theorem statement_closes (here : function.body.drop index = statement :: rest)
    {middle left : Session} {result ending : Except Signal Unit} (alone : middle.Alone)
    (clean : ∀ mark, Positions.Within [] function.body mark → middle.reads mark = none)
    (ended : (interpreter depth).listEnding (.located []) [] index rest (.of middle result) =
      .of left ending)
    (later : ∀ stopped task session, result = .ok () → ListStarts [] function.body middle stopped →
      Resting function receiver height stopped.executor task session → task.counter = index + 1 →
        (interpreter depth).Closes function receiver height left.executor.scopes left.executor.output
          (bodyResult ending) session)
    {start : Session} {outcome : Outcome Unit}
    (settles : ((interpreter depth).statementSegment [.item index] statement).Settles result middle
      start outcome)
    (run : (interpreter depth).exec [.item index] statement start = outcome) (inTask : start.InTask)
    (waiting : Waiting [] function.body index start.executor.positions) {task : Task}
    {session : Session}
    (turning :
      (interpreter depth).Turning function receiver height index statement task session start) :
    (interpreter depth).Closes function receiver height left.executor.scopes left.executor.output
      (bodyResult ending) session := by
  have present := ne_nil_of_drop here
  -- On the turns that the statement takes in the task until it has settled.
  induction settles generalizing task session with
  | @ended start after outcome completes beside runs cleaned =>
      have starts := waiting.starts present alone clean (runs.inTask inTask) beside runs cleaned
      cases completes with
      | done =>
          have ran : Ran start after := @ran_of_runs _ _ _ _ _ _ runs (.ok ()) run
          by_cases last : function.body.length ≤ index + 1
          · have concluded := turning.completes ran run last
            have none_left : rest = [] := by
              have lengths := congrArg List.length here
              rw [List.length_drop, List.length_cons] at lengths
              exact List.eq_nil_of_length_eq_zero (by omega)
            rw [none_left] at ended
            have leaves : Outcome.of (middle.positioned (Positions.clear (.located []))) (.ok ()) =
                .of left ending := ended
            obtain ⟨rfl, rfl⟩ := Outcome.of_inj leaves
            rw [beside.scopes, beside.output] at concluded
            exact concluded
          · obtain ⟨next, resting, turns, parked, counter⟩ := turning.advances ran run last
            exact .turn turning.parked.unfinished turns (later after resting next rfl starts parked counter)
      | yielded allowed =>
          have ran : Ran start after := @ran_of_runs _ _ _ _ _ _ runs (.error _) run
          obtain ⟨next, resting, turns, parked, counter⟩ := turning.suspends ran run
          exact .turn turning.parked.unfinished turns (later after resting next rfl starts parked counter)
      | @broken signal goesOn =>
          have ran : Ran start after := @ran_of_runs _ _ _ _ _ _ runs (.error _) run
          have broken := turning.breaks ran run goesOn
          have leaves : Outcome.of (middle.positioned (Positions.clear (.located []))) (.error signal) =
              .of left ending := by
            rw [← ended]
            exact ((interpreter depth).listEnding_broken goesOn).symm
          obtain ⟨rfl, rfl⟩ := Outcome.of_inj leaves
          rw [beside.scopes, beside.output] at broken
          exact broken
  | @suspended start after runs rests resumes ih =>
      obtain ⟨next, resting, resumed, turns, again, resumes, inside, waits⟩ :=
        turning_again here runs run inTask waiting turning
      exact .turn turning.parked.unfinished turns (ih resumed resumes rfl inside waits again)

theorem exhausted_closes (here : function.body.drop index = []) {alone stopped : Session}
    (starts : ListStarts [] function.body alone stopped) {task : Task} {session : Session}
    (parked : Resting function receiver height stopped.executor task session)
    (counter : task.counter = index) :
    (interpreter depth).Closes function receiver height alone.executor.scopes alone.executor.output
      (.ok .void) session := by
  have absent : task.start.statements[task.start.counter]? = none := by
    unfold Task.statements
    rw [parked.solitary.start.body, task.counter_start, counter]
    exact List.getElem?_eq_none (List.drop_eq_nil_iff.mp here)
  obtain ⟨scope, held⟩ := parked.held
  obtain ⟨completed, turns, same, closing⟩ := @turn_exhausted (interpreter depth) _ _ _ _ _ _
    parked absent _ held
  have pushed : alone.executor.scopes = session.executor.scopes.push scope := by
    rw [← starts.beside.scopes, ← parked.enters]
    unfold StepFrame.enter
    rw [held]
    rfl
  refine .closed parked.unfinished turns ?_ ?_ ?_
  · rw [same]
    refine Eq.trans ?_ starts.beside.output
    rw [← parked.enters]
    rfl
  · rw [same, pushed, ScopeStack.global_push]
  · rw [pushed, ScopeStack.bindings_current_push]
    exact closing

/-- From a turn in which the only task comes to the rest of its body, the turns lead to the end to
which that rest comes in one go. -/
theorem body_closes (plain : arePlain rest = true) (here : function.body.drop index = rest)
    {alone stopped left : Session} {ending : Except Signal Unit}
    (starts : ListStarts [] function.body alone stopped) {task : Task} {session : Session}
    (parked : Resting function receiver height stopped.executor task session)
    (counter : task.counter = index)
    (ended : (interpreter depth).execFrom (.of [] function.body) [] index rest alone =
      .of left ending) :
    (interpreter depth).Closes function receiver height left.executor.scopes left.executor.output
      (bodyResult ending) session := by
  -- On the statements that are left, in both runs at once: alone, and turn by turn in the task.
  induction rest generalizing index alone stopped task session with
  | nil =>
      have leaves : Outcome.of (alone.positioned (Positions.clear (.of [] function.body))) (.ok ()) =
          .of left ending := ended
      obtain ⟨rfl, rfl⟩ := Outcome.of_inj leaves
      exact exhausted_closes here starts parked counter
  | cons statement rest ih =>
      have present := ne_nil_of_drop here
      have next := drop_succ_of_drop here
      simp only [arePlain, Bool.and_eq_true] at plain
      obtain ⟨start, enters, turning⟩ := turning_of_parked (interpreter depth) here parked counter
      have entered : ListStarts [] function.body alone start :=
        starts.of_executor enters turning.underway.budget
      have follows := interpreter_settling depth [.item index] statement plain.1 alone start
        (entered.head present statement)
      rw [execFrom_cons] at ended
      rcases Outcome.of_or_halted ((interpreter depth).exec [.item index] statement alone) with
        ⟨result, middle, run⟩ | ⟨moment, run⟩
      · rw [run] at ended
        obtain ⟨calm, settles⟩ := follows result middle run
        refine statement_closes here calm.alone ?_ ?_ ?_ settles rfl entered.inTask
          (entered.waiting present) turning
        · intro mark within
          exact (calm.reads mark).trans (starts.cleanAlone mark within)
        · rw [← key_eq present]
          exact ended
        · intro stopped task session outcome goesOn parked counter
          rw [outcome] at ended
          exact ih plain.2 next goesOn parked counter ended
      · rw [run] at ended
        cases ending <;> cases ended

theorem body_ends (plain : arePlain rest = true) (here : function.body.drop index = rest)
    {alone stopped left : Session} {ending : Except Signal Unit}
    (starts : ListStarts [] function.body alone stopped) {task : Task} {session : Session}
    (parked : Parked function height stopped.executor task session) (counter : task.counter = index)
    (ended : (interpreter depth).execFrom (.of [] function.body) [] index rest alone =
      .of left ending) :
    ∃ turns, Agrees left.executor.scopes left.executor.output (bodyResult ending)
      (Act.iterate turns (interpreter depth).turn [] session) :=
  (body_closes plain here starts parked counter ended).agrees

end

/-! ### Whole runs -/

/-- The session as it is when its scheduler has not had any task yet. -/
def Session.unoccupied (settings : SchedulerSettings) (session : Session) : Session :=
  { session with scheduler := { settings }, budget := none }

namespace Interpreter

def runSpawned (interpreter : Interpreter) (function : FunctionDecl) (args : List Value) : Act Unit := do
  let _ ← Act.spawn function args
  interpreter.run

def spawned (function : FunctionDecl) (args : List Value) (session : Session) : Session :=
  let registered : Session :=
    { session with scheduler := (session.scheduler.register (.ofFunction function args)).2 }
  (registered.recorded (.registered onlyTask function.qualifiedName !function.hasYield)).recorded
    (.driving 1)

theorem runSpawned_eq (interpreter : Interpreter) (function : FunctionDecl) (args : List Value)
    (settings : SchedulerSettings) (session : Session) :
    interpreter.runSpawned function args (session.unoccupied settings) =
      Act.bind (Act.iterate interpreter.turns interpreter.turn []) (fun _ => Act.note .drained)
        (spawned function args (session.unoccupied settings)) :=
  rfl

theorem runSpawned_agrees {interpreter : Interpreter} {function : FunctionDecl} {args : List Value}
    {settings : SchedulerSettings} {session : Session} {scopes : ScopeStack} {output : Array String}
    {ending : Except Fault Value}
    (agrees : Agrees scopes output ending (Act.iterate interpreter.turns interpreter.turn []
      (spawned function args (session.unoccupied settings)))) :
    Agrees scopes output ending
      (interpreter.runSpawned function args (session.unoccupied settings)) := by
  rw [runSpawned_eq]
  unfold Act.bind
  generalize Act.iterate interpreter.turns interpreter.turn []
    (spawned function args (session.unoccupied settings)) = outcome at agrees ⊢
  cases agrees with
  | finished printed globals concluded =>
      dsimp only
      rw [Act.note_unlimited concluded.budget]
      exact .finished printed globals { concluded with }
  | faulted printed globals => exact .faulted printed globals

theorem parked_spawned (function : FunctionDecl) (args : List Value) (settings : SchedulerSettings)
    (session : Session) :
    Parked function session.executor.scopes.depth
      { session.executor with
        currentTask := some onlyTask
        autoYield := !function.hasYield
        scopes := session.executor.scopes.push (callScope function args none)
        positions := {} }
      { Task.ofFunction function args with autoYield := !function.hasYield }
      (spawned function args (session.unoccupied settings)) where
  tasks := rfl
  queue := rfl
  active := rfl
  budget := rfl
  solitary := ⟨rfl, rfl, rfl, rfl, rfl, rfl, rfl, rfl, rfl⟩
  depth := rfl
  held := ⟨_, rfl⟩
  enters := rfl

end Interpreter

theorem areFutureless_callScope {function : FunctionDecl} {args : List Value}
    (arguments : ∀ value ∈ args, value.isFutureless = true) :
    Value.areFutureless (callScope function args none).bindings = true := by
  refine Value.areFutureless_insertAll ?_ rfl
  rw [Value.areFutureless_iff]
  intro entry member
  rw [List.append_nil] at member
  exact arguments entry.2 (List.of_mem_zip member).2

theorem Agrees.extended {scopes : ScopeStack} {output : Array String} {ending : Except Fault Value}
    {short long : Outcome Unit} (agrees : Agrees scopes output ending short)
    (longer : short.Extends (some 0) long) : Agrees scopes output ending long := by
  cases agrees with
  | finished printed globals concluded =>
      rw [longer.ofDone, Session.granted_zero]
      exact .finished printed globals concluded
  | faulted printed globals =>
      rw [longer.ofRaised, Session.granted_zero]
      exact .faulted printed globals

open Interpreter in
/-- What a plain body comes to in one go, it comes to as the only task of a drive as well. Since a
body may print at every one of its statements, none is skipped or repeated on the way. -/
theorem suspension_is_transparent {depth : Nat} (function : FunctionDecl) (args : List Value)
    (settings : SchedulerSettings) (session : Session) (plain : arePlain function.body = true)
    (arguments : ∀ value ∈ args, value.isFutureless = true)
    (globals : session.executor.scopes.isFutureless = true) {left : Session}
    {ending : Except Signal Unit}
    (ended : (interpreter depth).execBlock [] function.body
      ((session.unoccupied settings).enteringCall (callScope function args none)) = .of left ending) :
    ∃ enough, ∀ deeper, enough ≤ deeper →
      Agrees left.executor.scopes left.executor.output (bodyResult ending)
        ((interpreter deeper).runSpawned function args (session.unoccupied settings)) := by
  let alone := (session.unoccupied settings).enteringCall (callScope function args none)
  let stopped : Session :=
    { spawned function args (session.unoccupied settings) with
      executor :=
        { session.executor with
          currentTask := some onlyTask
          autoYield := !function.hasYield
          scopes := session.executor.scopes.push (callScope function args none)
          positions := {} } }
  have starts : ListStarts [] function.body alone stopped := by
    have futureless := ScopeStack.isFutureless_push globals
      (@areFutureless_callScope function args arguments)
    exact ⟨⟨rfl, rfl, rfl, Positions.tidy_start, futureless⟩, ⟨rfl, rfl, Positions.tidy_start⟩,
      ⟨rfl, rfl, rfl⟩, fun mark _ => Positions.reads_start mark,
      fun mark _ _ => Positions.reads_start mark⟩
  have parked : Parked function session.executor.scopes.depth stopped.executor _ _ :=
    parked_spawned function args settings session
  -- The task starts as the body does alone, in the same scope and without marks.
  obtain ⟨turns, agrees⟩ := body_ends plain List.drop_zero starts parked rfl ended
  -- As many turns as the drive takes and as deep as the body went: both are within reach of every
  -- interpreter that is deep enough.
  let shallow : Interpreter := { interpreter depth with turns }
  refine ⟨max depth (turns + 1), ?_⟩
  intro deeper enough
  have within : depth ≤ deeper := Nat.le_trans (Nat.le_max_left ..) enough
  have lower := interpreter_deepens within
  have reaches : turns ≤ (interpreter deeper).turns := by
    have more : turns + 1 ≤ deeper := Nat.le_trans (Nat.le_max_right ..) enough
    obtain ⟨deep, rfl⟩ : ∃ deep, deeper = deep + 1 := ⟨deeper - 1, by omega⟩
    exact Nat.le_of_succ_le_succ more
  have deepens : shallow.DeepensTo (interpreter deeper) := ⟨⟨deeper, rfl⟩, lower.eval, lower.exec, reaches⟩
  have spawns : Deepens .expression (Act.spawn function args) (Act.spawn function args) :=
    .register (.ofFunction function args)
  have longer := (Deepens.bind spawns fun _ => deepens.related.run).extends.outcome (some 0)
    (session.unoccupied settings)
  rw [Session.granted_zero] at longer
  exact Agrees.extended (@runSpawned_agrees shallow _ _ _ _ _ _ _ agrees) longer

/-- A body that gives way in the middle of a loop. -/
def countingUp : FunctionDecl where
  name := "countingUp"
  params := ["count"]
  body :=
    [.whileLoop (.binary .lt (.var "count") (.lit (.int 2)))
      [.print (.lit (.str "before")), .yield,
        .assign "count" (.binary .add (.var "count") (.lit (.int 1)))],
      .returning (some (.var "count"))]
  isAsync := true
  owner := none

theorem suspension_is_transparent_countingUp :
    ∃ enough, ∀ deeper, enough ≤ deeper → ∃ after task,
      (interpreter deeper).runSpawned countingUp [.int 0] (Session.unoccupied {} {}) =
          .done () after ∧
        after.executor.output = #["before", "before"] ∧ after.scheduler.tasks = [task] ∧
        task.result = some (.int 2) := by
  have ended : (interpreter 7).execBlock [] countingUp.body
      ((Session.unoccupied {} {}).enteringCall (callScope countingUp [.int 0] none)) =
        .of _ (.error (.returning (.int 2))) := rfl
  obtain ⟨enough, agree⟩ := suspension_is_transparent countingUp [.int 0] {} {} rfl
    (fun value member => by rw [List.mem_singleton.mp member]; rfl) rfl ended
  refine ⟨enough, ?_⟩
  intro deeper within
  have agrees := agree deeper within
  generalize (interpreter deeper).runSpawned countingUp [.int 0] (Session.unoccupied {} {}) =
    outcome at agrees ⊢
  cases agrees with
  | finished printed globals concluded =>
      obtain ⟨task, tasks, -, result, -⟩ := concluded.tasks
      exact ⟨_, task, rfl, printed, tasks, result⟩

end CooperativeTasks
