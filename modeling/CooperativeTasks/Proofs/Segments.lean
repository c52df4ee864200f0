import CooperativeTasks.Proofs.Marks
import CooperativeTasks.Proofs.PlainPrograms

set_option autoImplicit false

/-! Parts of a program that are suspended and resumed.

The same part is run twice: once outside of any task, where it goes through at once, and once in
a task, where it may be left and entered again any number of times. A segment says what a part may
mark in the table of positions and how it is entered again. It settles on a result if, entered
again as often as it asks for, it comes to that result, whatever has happened to the marks of
others in between. -/

namespace CooperativeTasks

namespace Session

def reads (session : Session) (mark : Positions.Mark) : Option Nat :=
  session.executor.positions.reads mark

def positioned (change : Positions → Positions) (session : Session) : Session :=
  { session with
    executor := { session.executor with positions := change session.executor.positions } }

/-- The session with other bindings and other lines printed. -/
def showing (scopes : ScopeStack) (output : Array String) (session : Session) : Session :=
  { session with executor := { session.executor with scopes, output } }

/-- Outside of any task, and with no task to give way to. -/
structure Alone (session : Session) : Prop where
  currentTask : session.executor.currentTask = none
  queue : session.scheduler.queue.ids = []
  budget : session.budget = none
  tidy : session.executor.positions.Tidy
  futureless : session.executor.scopes.isFutureless = true

structure InTask (session : Session) : Prop where
  currentTask : session.executor.currentTask.isSome = true
  budget : session.budget = none
  tidy : session.executor.positions.Tidy

/-- Two sessions in which a plain program finds the same. -/
structure Beside (alone task : Session) : Prop where
  scopes : task.executor.scopes = alone.executor.scopes
  output : task.executor.output = alone.executor.output
  structs : task.executor.structs = alone.executor.structs

theorem Beside.lookups {alone task : Session} (beside : alone.Beside task) (name : String) :
    task.executor.scopes.lookup? name = alone.executor.scopes.lookup? name := by
  rw [beside.scopes]

/-- What a run outside of any task leaves behind: no suspension, no marks, and no futures. -/
structure Calm (before : Session) (result : Except Signal Unit) (after : Session) : Prop where
  alone : after.Alone
  structs : after.executor.structs = before.executor.structs
  reads : ∀ mark, after.reads mark = before.reads mark
  goesOn : ∀ fromLoop, result ≠ .error (.suspend fromLoop)
  returned : ∀ value, result = .error (.returning value) → value.isFutureless = true

theorem Calm.trans {first second third : Session} {result result' : Except Signal Unit}
    (left : first.Calm result second) (right : second.Calm result' third) :
    first.Calm result' third where
  alone := right.alone
  structs := right.structs.trans left.structs
  reads mark := (right.reads mark).trans (left.reads mark)
  goesOn := right.goesOn
  returned := right.returned

theorem Calm.beside {alone middle task : Session} {result : Except Signal Unit}
    (calm : alone.Calm result middle) (beside : alone.Beside task) :
    middle.Beside (task.showing middle.executor.scopes middle.executor.output) where
  scopes := rfl
  output := rfl
  structs := beside.structs.trans calm.structs.symm

end Session

/-! ### Statements that are not suspended -/

/-- The outcomes of an action that does the same in both sessions and leaves positions alone. -/
inductive Outcome.Alike (alone task : Session) : Outcome Unit → Outcome Unit → Prop where
  | ended (result : Except Signal Unit) (goesOn : ∀ fromLoop, result ≠ .error (.suspend fromLoop))
      (returned : ∀ value, result = .error (.returning value) → value.isFutureless = true)
      {scopes : ScopeStack} (futureless : scopes.isFutureless = true) (output : Array String) :
      Alike alone task (.of (alone.showing scopes output) result)
        (.of (task.showing scopes output) result)
  | halted (moment moment' : Session) : Alike alone task (.halted moment) (.halted moment')

theorem Outcome.Alike.of_halted {alone task moment : Session} {outcome : Outcome Unit}
    (alike : Outcome.Alike alone task (.halted moment) outcome) :
    ∃ moment', outcome = .halted moment' := by
  generalize run : (Outcome.halted moment : Outcome Unit) = whole at alike
  cases alike with
  | ended result => cases result <;> cases run
  | halted _ moment' => exact ⟨moment', rfl⟩

def Act.ActsAlike (action : Act Unit) : Prop :=
  ∀ alone task : Session, alone.Alone → task.InTask → alone.Beside task →
    Outcome.Alike alone task (action alone) (action task)

theorem Session.Alone.showing {alone : Session} (holds : alone.Alone) {scopes : ScopeStack}
    (futureless : scopes.isFutureless = true) (output : Array String) :
    (alone.showing scopes output).Alone :=
  { holds with futureless }

theorem Session.InTask.showing {task : Session} (holds : task.InTask) (scopes : ScopeStack)
    (output : Array String) : (task.showing scopes output).InTask :=
  { holds with }

theorem Session.Alone.calm_showing {alone : Session} (holds : alone.Alone)
    {result : Except Signal Unit} (goesOn : ∀ fromLoop, result ≠ .error (.suspend fromLoop))
    (returned : ∀ value, result = .error (.returning value) → value.isFutureless = true)
    {scopes : ScopeStack} (futureless : scopes.isFutureless = true) (output : Array String) :
    alone.Calm result (alone.showing scopes output) where
  alone := holds.showing futureless output
  structs := rfl
  reads _ := rfl
  goesOn := goesOn
  returned := returned

namespace Act.ActsAlike

variable {α : Type}

theorem same {alone task : Session} (outside : alone.Alone) (beside : alone.Beside task)
    (result : Except Signal Unit) (goesOn : ∀ fromLoop, result ≠ .error (.suspend fromLoop))
    (returned : ∀ value, result = .error (.returning value) → value.isFutureless = true) :
    Outcome.Alike alone task (.of alone result) (.of task result) := by
  have ended : Outcome.Alike alone task _
      (.of (task.showing alone.executor.scopes alone.executor.output) result) :=
    .ended result goesOn returned outside.futureless alone.executor.output
  have unchanged : task.showing alone.executor.scopes alone.executor.output = task := by
    unfold Session.showing
    rw [← beside.scopes, ← beside.output]
  rw [unchanged] at ended
  exact ended

theorem raise {signal : Signal} (goesOn : ∀ fromLoop, signal ≠ .suspend fromLoop)
    (returned : ∀ value, signal = .returning value → value.isFutureless = true) :
    (Act.raise signal).ActsAlike := by
  intro alone task outside _ beside
  refine same outside beside (.error signal) ?_ ?_
  · rintro fromLoop ⟨⟩
    exact goesOn fromLoop rfl
  · rintro value ⟨⟩
    exact returned value rfl

theorem pure : (Pure.pure () : Act Unit).ActsAlike := by
  intro alone task outside _ beside
  exact same outside beside (.ok ()) nofun nofun

theorem looking {good : α → Prop} {action : Act α} {next : α → Act Unit}
    (looks : Looks good action) (tail : ∀ value, good value → (next value).ActsAlike) :
    (action >>= next).ActsAlike := by
  intro alone task outside inside beside
  have looked := looks alone task beside.lookups beside.structs
  rw [bind_apply, bind_apply]
  generalize action alone = outcome at looked
  generalize action task = outcome' at looked
  cases looked with
  | halted => exact .halted alone task
  | raised cause => exact same outside beside (.error (.fault cause)) nofun nofun
  | done value well => exact tail value (well outside.futureless) alone task outside inside beside

theorem updateScopes {change : ScopeStack → ScopeStack}
    (keeps : ∀ scopes : ScopeStack, scopes.isFutureless = true → (change scopes).isFutureless = true) :
    (Act.updateScopes change).ActsAlike := by
  intro alone task outside _ beside
  change Outcome.Alike alone task
    (.of (alone.showing (change alone.executor.scopes) alone.executor.output) (.ok ()))
    (.of (task.showing (change task.executor.scopes) task.executor.output) (.ok ()))
  rw [beside.scopes, beside.output]
  exact .ended (.ok ()) nofun nofun (keeps _ outside.futureless) _

theorem writePlace (name : String) {value : Value} (futureless : value.isFutureless = true) :
    (Act.writePlace name value).ActsAlike := by
  intro alone task outside _ beside
  have ended (result : Except Signal Unit) (goesOn : ∀ fromLoop, result ≠ .error (.suspend fromLoop))
      (returned : ∀ value, result = .error (.returning value) → value.isFutureless = true) :
      Outcome.Alike alone task (.of (alone.showing
        (alone.executor.scopes.writePlace name value).1 alone.executor.output) result)
        (.of (task.showing (alone.executor.scopes.writePlace name value).1 alone.executor.output)
          result) :=
    .ended result goesOn returned (ScopeStack.isFutureless_writePlace outside.futureless futureless name) _
  change Outcome.Alike alone task
    (Act.ofExcept (alone.executor.scopes.writePlace name value).2
      (alone.showing (alone.executor.scopes.writePlace name value).1 alone.executor.output))
    (Act.ofExcept (task.executor.scopes.writePlace name value).2
      (task.showing (task.executor.scopes.writePlace name value).1 task.executor.output))
  rw [beside.scopes, beside.output]
  cases (alone.executor.scopes.writePlace name value).2 with
  | ok written => exact ended (.ok ()) nofun nofun
  | error cause => exact ended (.error (.fault cause)) nofun nofun

theorem printLine (line : String) : (Interpreter.printLine line).ActsAlike := by
  intro alone task outside _ beside
  change Outcome.Alike alone task
    (.of (alone.showing alone.executor.scopes (alone.executor.output.push line)) (.ok ()))
    (.of (task.showing task.executor.scopes (task.executor.output.push line)) (.ok ()))
  rw [beside.scopes, beside.output]
  exact .ended (.ok ()) nofun nofun outside.futureless _

theorem faulting {action : Act Unit} (alike : action.ActsAlike) : (Act.faulting action).ActsAlike := by
  intro alone task outside inside beside
  have outcomes := alike alone task outside inside beside
  unfold Act.faulting
  generalize action alone = outcome at outcomes
  generalize action task = outcome' at outcomes
  cases outcomes with
  | halted moment moment' => exact .halted moment moment'
  | ended result goesOn returned futureless output =>
      cases result with
      | ok value => exact .ended (.ok value) goesOn returned futureless output
      | error signal => exact .ended (.error (.fault signal.toFault)) nofun nofun futureless output

end Act.ActsAlike

theorem Interpreter.bindFutureTo_of_futureless (site : Executor → Option BindingSite) {value : Value}
    (futureless : value.isFutureless = true) :
    Interpreter.bindFutureTo site value = Pure.pure () := by
  unfold Interpreter.bindFutureTo
  rw [Value.taskOf?_of_futureless futureless]

/-- A statement that is done in one go. -/
def Stmt.isDirect : Stmt → Bool
  | .returning value => value.all Expr.isPlain
  | .breakLoop => true
  | .continueLoop => true
  | statement => statement.isSimple

theorem Interpreter.LooksAt.perform {interpreter : Interpreter} (looks : interpreter.LooksAt)
    (path : Path) {statement : Stmt} (direct : statement.isDirect = true) :
    (interpreter.perform path statement).ActsAlike := by
  cases statement with
  | letVar name value =>
      refine .looking (looks value direct) fun computed futureless => ?_
      rw [Interpreter.bindFutureTo_of_futureless _ futureless]
      refine .updateScopes fun scopes plain => ScopeStack.isFutureless_modifyCurrent plain ?_
      intro scope bindings
      exact Value.areFutureless_insert futureless bindings name
  | assign target value =>
      refine .looking (looks value direct) fun computed futureless => ?_
      rw [Interpreter.bindFutureTo_of_futureless _ futureless]
      exact .writePlace target futureless
  | expression value => exact .looking (looks value direct) fun _ _ => .pure
  | print value => exact .looking (looks value direct) fun computed _ => .printLine computed.text
  | returning value =>
      cases value with
      | none =>
          refine .raise nofun ?_
          rintro _ ⟨⟩
          rfl
      | some value =>
          refine .looking (looks value direct) fun computed futureless => .raise nofun ?_
          rintro _ ⟨⟩
          exact futureless
  | breakLoop => exact .raise nofun nofun
  | continueLoop => exact .raise nofun nofun
  | yield => cases direct
  | ifThen condition thenBranch elseBranch => cases direct
  | whileLoop condition body => cases direct
  | forLoop init condition update body => cases direct
  | block body => cases direct

/-! ### Segments -/

structure Segment where
  /-- The marks that the segment may set. -/
  inside : Positions.Mark → Prop
  /-- What it leaves marked when it is suspended. -/
  resting : Positions → Prop
  /-- It may give way at its very end, not to be entered again. -/
  yields : Prop
  /-- How it is entered again. -/
  again : Act Unit

namespace Segment

variable (segment : Segment)

def Clean (session : Session) : Prop := ∀ mark, segment.inside mark → session.reads mark = none

/-- What a run of the segment in a task may do to the session. -/
structure Runs (start after : Session) : Prop where
  executor : after.executor =
    { start.executor with
      scopes := after.executor.scopes
      output := after.executor.output
      positions := after.executor.positions }
  scheduler : after.scheduler = start.scheduler
  budget : after.budget = none
  tidy : after.executor.positions.Tidy
  outside : ∀ mark, ¬ segment.inside mark → after.reads mark = start.reads mark

/-- The task enters the segment again, with all that the segment has marked. -/
structure Resumes (left resumed : Session) : Prop where
  executor : resumed.executor = { left.executor with positions := resumed.executor.positions }
  budget : resumed.budget = none
  tidy : resumed.executor.positions.Tidy
  inside : ∀ mark, segment.inside mark → resumed.reads mark = left.reads mark

/-- A run of the segment has come to its result. -/
inductive Completes : Outcome Unit → Except Signal Unit → Session → Prop where
  | done (after : Session) : Completes (.done () after) (.ok ()) after
  | yielded (allowed : segment.yields) (after : Session) :
      Completes (.raised (.suspend false) after) (.ok ()) after
  | broken {signal : Signal} (goesOn : ∀ fromLoop, signal ≠ .suspend fromLoop) (after : Session) :
      Completes (.raised signal after) (.error signal) after

theorem Completes.of {result : Except Signal Unit}
    (goesOn : ∀ fromLoop, result ≠ .error (.suspend fromLoop)) (after : Session) :
    segment.Completes (.of after result) result after := by
  cases result with
  | ok value => exact .done after
  | error signal =>
      refine .broken ?_ after
      rintro fromLoop rfl
      exact goesOn fromLoop rfl

/-- A run of the segment comes to the result, and to a session beside `left`, in this turn or in
some later one. -/
inductive Settles (result : Except Signal Unit) (left : Session) : Session → Outcome Unit → Prop where
  | ended {start after : Session} {outcome : Outcome Unit}
      (completes : segment.Completes outcome result after) (beside : left.Beside after)
      (runs : segment.Runs start after) (clean : segment.Clean after) :
      Settles result left start outcome
  | suspended {start after : Session} (runs : segment.Runs start after)
      (rests : segment.resting after.executor.positions)
      (resumes : ∀ resumed, segment.Resumes after resumed →
        Settles result left resumed (segment.again resumed)) :
      Settles result left start (.raised (.suspend true) after)

/-- The sessions in which a segment is entered for the first time. -/
structure Starts (alone task : Session) : Prop where
  outside : alone.Alone
  inTask : task.InTask
  beside : alone.Beside task
  cleanAlone : segment.Clean alone
  cleanTask : segment.Clean task

/-- The second action, in a task, settles on what the first one comes to outside of any. -/
def Follows (direct first : Act Unit) : Prop :=
  ∀ alone task : Session, segment.Starts alone task →
    ∀ result left, direct alone = .of left result →
      alone.Calm result left ∧ segment.Settles result left task (first task)

variable {segment}

theorem Runs.inTask {start after : Session} (runs : segment.Runs start after) (task : start.InTask) :
    after.InTask := by
  refine ⟨?_, runs.budget, runs.tidy⟩
  rw [runs.executor]
  exact task.currentTask

theorem Runs.trans {first second third : Session} (left : segment.Runs first second)
    (right : segment.Runs second third) : segment.Runs first third where
  executor := by
    rw [right.executor, left.executor]
  scheduler := right.scheduler.trans left.scheduler
  budget := right.budget
  tidy := right.tidy
  outside mark away := (right.outside mark away).trans (left.outside mark away)

theorem Runs.widen {outer : Segment} {start after : Session} (runs : segment.Runs start after)
    (within : ∀ mark, segment.inside mark → outer.inside mark) : outer.Runs start after :=
  { runs with outside := fun mark away => runs.outside mark fun inside => away (within mark inside) }

theorem Completes.widen {outer : Segment} {outcome : Outcome Unit} {result : Except Signal Unit}
    {after : Session} (completes : segment.Completes outcome result after)
    (yields : segment.yields → outer.yields) : outer.Completes outcome result after := by
  cases completes with
  | done => exact .done after
  | yielded allowed => exact .yielded (yields allowed) after
  | broken goesOn => exact .broken goesOn after

theorem Runs.showing {start : Session} (task : start.InTask) (scopes : ScopeStack)
    (output : Array String) : segment.Runs start (start.showing scopes output) where
  executor := rfl
  scheduler := rfl
  budget := task.budget
  tidy := task.tidy
  outside _ _ := rfl

theorem Settles.prepend {result : Except Signal Unit} {left first second : Session}
    {outcome : Outcome Unit} (before : segment.Runs first second)
    (settles : segment.Settles result left second outcome) :
    segment.Settles result left first outcome := by
  cases settles with
  | ended completes beside runs clean => exact .ended completes beside (before.trans runs) clean
  | suspended runs rests resumes => exact .suspended (before.trans runs) rests resumes

theorem Starts.settles {alone task left : Session} (starts : segment.Starts alone task)
    {outcome outcome' : Outcome Unit} (alike : Outcome.Alike alone task outcome outcome')
    {result : Except Signal Unit} (ended : outcome = .of left result) :
    alone.Calm result left ∧ segment.Settles result left task outcome' := by
  cases alike with
  | halted => cases result <;> cases ended
  | @ended other goesOn returned scopes futureless output =>
      obtain ⟨rfl, rfl⟩ := Outcome.of_inj ended
      refine ⟨starts.outside.calm_showing goesOn returned futureless output, ?_⟩
      refine .ended (.of _ goesOn _) ?_ (.showing starts.inTask scopes output) starts.cleanTask
      exact ⟨rfl, rfl, starts.beside.structs⟩

theorem follows_of_alike {action : Act Unit} (alike : action.ActsAlike) :
    segment.Follows action action := by
  intro alone task starts result left ended
  exact starts.settles (alike alone task starts.outside starts.inTask starts.beside) ended

theorem Starts.narrow {outer : Segment} {alone task : Session} (starts : outer.Starts alone task)
    (within : ∀ mark, segment.inside mark → outer.inside mark) : segment.Starts alone task :=
  { starts with
    cleanAlone := fun mark inside => starts.cleanAlone mark (within mark inside)
    cleanTask := fun mark inside => starts.cleanTask mark (within mark inside) }

theorem Resumes.inTask {left resumed : Session} (resumes : segment.Resumes left resumed)
    (task : left.InTask) : resumed.InTask := by
  refine ⟨?_, resumes.budget, resumes.tidy⟩
  rw [resumes.executor]
  exact task.currentTask

theorem Resumes.beside {alone left resumed : Session} (resumes : segment.Resumes left resumed)
    (beside : alone.Beside left) : alone.Beside resumed := by
  constructor
  · rw [resumes.executor]
    exact beside.scopes
  · rw [resumes.executor]
    exact beside.output
  · rw [resumes.executor]
    exact beside.structs

/-! ### Segments within segments -/

/-- A segment inside of another one. When the inner one is suspended, the outer one may note
something; when it is entered again, it goes back to the inner one, and does with that what it
did before. It does so by one of several ways to go on, of which `entry` is the one that it takes
when it is entered again. The `frame` holds of the marks that only the outer one sets. -/
structure Encloses {κ : Type} (outer inner : Segment) (wrap : κ → Outcome Unit → Outcome Unit)
    (entry : κ) (note : Positions → Positions) (frame : Positions → Prop) : Prop where
  within : ∀ mark, inner.inside mark → outer.inside mark
  notes : ∀ positions mark, inner.inside mark → (note positions).reads mark = positions.reads mark
  beyond : ∀ positions mark, ¬ outer.inside mark →
    (note positions).reads mark = positions.reads mark
  tidy : ∀ positions : Positions, positions.Tidy → (note positions).Tidy
  suspends : ∀ case after,
    wrap case (.raised (.suspend true) after) = .raised (.suspend true) (after.positioned note)
  stable : ∀ first second : Positions, frame first →
    (∀ mark, ¬ inner.inside mark → second.reads mark = first.reads mark) → frame second
  rests : ∀ positions, frame positions → inner.resting positions → outer.resting (note positions)
  resumes : ∀ left resumed : Session, frame left.executor.positions →
    inner.resting left.executor.positions → outer.Resumes (left.positioned note) resumed →
      frame resumed.executor.positions ∧ outer.again resumed = wrap entry (inner.again resumed)

section Enclose

variable {κ : Type} {outer inner : Segment} {wrap : κ → Outcome Unit → Outcome Unit} {entry : κ}
  {note : Positions → Positions} {frame : Positions → Prop}
  (encloses : outer.Encloses inner wrap entry note frame)

include encloses

theorem Encloses.suspended {start after : Session} (runs : inner.Runs start after)
    (rests : inner.resting after.executor.positions) (task : start.InTask)
    (framed : frame start.executor.positions) :
    outer.Runs start (after.positioned note) ∧
      outer.resting (after.positioned note).executor.positions ∧
      ∀ resumed, outer.Resumes (after.positioned note) resumed →
        inner.Resumes after resumed ∧ resumed.InTask ∧ frame resumed.executor.positions ∧
          outer.again resumed = wrap entry (inner.again resumed) := by
  have still : frame after.executor.positions := encloses.stable _ _ framed runs.outside
  refine ⟨?_, encloses.rests _ still rests, ?_⟩
  · refine ⟨?_, runs.scheduler, runs.budget, encloses.tidy _ runs.tidy, ?_⟩
    · change { after.executor with positions := note after.executor.positions } = _
      rw [runs.executor]
      rfl
    · intro mark away
      have wide := runs.widen encloses.within
      exact (encloses.beyond _ mark away).trans (wide.outside mark away)
  · intro resumed enters
    obtain ⟨framed', goesOn⟩ := encloses.resumes after resumed still rests enters
    have again : inner.Resumes after resumed := by
      refine ⟨enters.executor, enters.budget, enters.tidy, ?_⟩
      intro mark inside
      exact (enters.inside mark (encloses.within mark inside)).trans
        (encloses.notes _ mark inside)
    exact ⟨again, again.inTask (runs.inTask task), framed', goesOn⟩

theorem Settles.enclose {result result' : Except Signal Unit} {left left' : Session}
    (ended : ∀ case {start after : Session} {outcome : Outcome Unit}, start.InTask →
      frame start.executor.positions → inner.Completes outcome result after → left.Beside after →
      inner.Runs start after → inner.Clean after → outer.Settles result' left' start (wrap case outcome))
    {start : Session} {outcome : Outcome Unit} (settles : inner.Settles result left start outcome)
    (task : start.InTask) (framed : frame start.executor.positions) (case : κ) :
    outer.Settles result' left' start (wrap case outcome) := by
  induction settles generalizing case with
  | ended completes beside runs clean => exact ended case task framed completes beside runs clean
  | @suspended start after runs rests resumes ih =>
      obtain ⟨around, resting, again⟩ := encloses.suspended runs rests task framed
      rw [encloses.suspends]
      refine .suspended around resting ?_
      intro resumed enters
      obtain ⟨inside, inTask, framed', goesOn⟩ := again resumed enters
      rw [goesOn]
      exact ih resumed inside inTask framed' entry

end Enclose

/-- The marks that only the outer segment sets are not there. -/
def CleanBetween (outer inner : Segment) (positions : Positions) : Prop :=
  ∀ mark, outer.inside mark → ¬ inner.inside mark → positions.reads mark = none

section Pass

variable {outer inner : Segment} (within : ∀ mark, inner.inside mark → outer.inside mark)
  (rests : ∀ positions, inner.resting positions → outer.resting positions)
  (enters : ∀ left resumed : Session, inner.resting left.executor.positions →
    CleanBetween outer inner resumed.executor.positions → outer.Resumes left resumed →
      outer.again resumed = inner.again resumed)

include within rests enters

theorem encloses_pass :
    outer.Encloses inner (fun (_ : Unit) outcome => outcome) () (fun positions => positions)
      (CleanBetween outer inner) := by
  refine ⟨within, fun _ _ _ => rfl, fun _ _ _ => rfl, fun _ tidy => tidy, fun _ _ => rfl, ?_,
    fun positions _ => rests positions, ?_⟩
  · intro first second between same mark inside away
    rw [same mark away]
    exact between mark inside away
  · intro left resumed between resting resumes
    have still : CleanBetween outer inner resumed.executor.positions := by
      intro mark inside away
      exact (resumes.inside mark inside).trans (between mark inside away)
    exact ⟨still, enters left resumed resting still resumes⟩

theorem Settles.pass (yields : inner.yields → outer.yields) {result : Except Signal Unit}
    {left start : Session} {outcome : Outcome Unit}
    (settles : inner.Settles result left start outcome) (task : start.InTask)
    (clean : CleanBetween outer inner start.executor.positions) :
    outer.Settles result left start outcome := by
  refine settles.enclose (encloses_pass within rests enters) ?_ task clean ()
  intro _ start after outcome _ between completes beside runs cleaned
  refine .ended (completes.widen yields) beside (runs.widen within) ?_
  intro mark inside
  by_cases inner : inner.inside mark
  · exact cleaned mark inner
  · exact (runs.outside mark inner).trans (between mark inside inner)

end Pass

end Segment

end CooperativeTasks
