import CooperativeTasks.Proofs.Extension
import CooperativeTasks.Proofs.Segments

set_option autoImplicit false

/-! Suspending and resuming statements.

Whatever a plain statement comes to outside of any task, it comes to in a task too, in as many
turns as it takes. This is shown for each way of putting statements together, on the assumption
that it holds of the parts; the induction is on the depth of the interpreter. -/

namespace CooperativeTasks

/-! ### The rest of a list -/

section

variable {statements rest : List Stmt} {index : Nat} {statement : Stmt}
  (here : statements.drop index = statement :: rest)

include here

theorem ne_nil_of_drop : statements ≠ [] := by
  rintro rfl
  rw [List.drop_nil] at here
  cases here

theorem drop_succ_of_drop : statements.drop (index + 1) = rest := by
  rw [← List.drop_drop, here]
  rfl

theorem getElem?_of_drop : statements[index]? = some statement := by
  have first := congrArg (fun list => list[0]?) here
  simpa using first

end

theorem interpreter_exec {session : Session} (unlimited : session.budget = none) (depth : Nat)
    (path : Path) (statement : Stmt) :
    (interpreter (depth + 1)).exec path statement session =
      (interpreter depth).perform path statement session := by
  have itself := ((interpreter_deepens (Nat.le_refl depth)).perform path statement).extends
  change (Act.moment >>= fun _ => _) session = _
  rw [Act.bind_apply, Act.moment_unlimited unlimited]
  dsimp only
  rw [Act.attempt_bind]
  cases run : (interpreter depth).perform path statement session with
  | halted moment => rfl
  | done value after =>
      have still : after.budget = none := itself.unlimited (.ok value) unlimited run
      dsimp only
      rw [Act.bind_apply, Act.moment_unlimited still]
      rfl
  | raised signal after =>
      have still : after.budget = none := itself.unlimited (.error signal) unlimited run
      dsimp only
      rw [Act.bind_apply, Act.moment_unlimited still]
      rfl

namespace Interpreter

variable (interpreter : Interpreter)

def statementSegment (path : Path) (statement : Stmt) : Segment where
  inside := Positions.Under path
  resting _ := True
  yields := True
  again := interpreter.exec path statement

def listSegment (path : Path) (statements : List Stmt) : Segment where
  inside := Positions.Within path statements
  resting positions := statements ≠ [] ∧ (positions.get? (.located path)).isSome = true
  yields := False
  again := interpreter.execBlock path statements

def loopSegment (path : Path) (condition : Option Expr) (update : Option Stmt) (body : List Stmt) :
    Segment where
  inside := Positions.Within (.body :: path) body
  resting _ := True
  yields := False
  again := interpreter.execLoop path condition update body

/-- Plain statements settle in a task on what they come to outside of it. -/
def Settling : Prop :=
  ∀ path statement, statement.isPlain = true →
    (interpreter.statementSegment path statement).Follows (interpreter.exec path statement)
      (interpreter.exec path statement)

/-! ### Lists -/

def listEnding (key : ListKey) (path : Path) (index : Nat) (rest : List Stmt) :
    Outcome Unit → Outcome Unit
  | .done () after => interpreter.execFrom key path (index + 1) rest after
  | .raised (.suspend fromLoop) after =>
      .raised (.suspend true)
        (after.positioned (Positions.set key (if fromLoop then index else index + 1)))
  | .raised signal after => .raised signal (after.positioned (Positions.clear key))
  | .halted moment => .halted moment

theorem execFrom_cons (key : ListKey) (path : Path) (index : Nat) (statement : Stmt)
    (rest : List Stmt) (session : Session) :
    interpreter.execFrom key path index (statement :: rest) session =
      interpreter.listEnding key path index rest
        (interpreter.exec (.item index :: path) statement session) := by
  rw [execFrom, Act.attempt_bind]
  cases interpreter.exec (.item index :: path) statement session with
  | done value after => rfl
  | raised signal after => cases signal <;> rfl
  | halted moment => rfl

theorem listEnding_broken {key : ListKey} {path : Path} {index : Nat} {rest : List Stmt}
    {signal : Signal} (goesOn : ∀ fromLoop, signal ≠ .suspend fromLoop) {after : Session} :
    interpreter.listEnding key path index rest (.raised signal after) =
      .raised signal (after.positioned (Positions.clear key)) := by
  cases signal with
  | suspend fromLoop => exact absurd rfl (goesOn fromLoop)
  | _ => rfl

theorem execBlock_apply (path : Path) (statements : List Stmt) (session : Session) :
    interpreter.execBlock path statements session =
      interpreter.execFrom (.of path statements) path
        ((session.executor.positions.get? (.of path statements)).getD 0)
        (statements.drop ((session.executor.positions.get? (.of path statements)).getD 0)) session :=
  rfl

variable {interpreter}

theorem execBlock_resumed {path : Path} {statements : List Stmt} (present : statements ≠ [])
    {session : Session} {index : Nat}
    (marked : session.reads (.resume (.located path)) = some index) :
    interpreter.execBlock path statements session =
      interpreter.execFrom (.located path) path index (statements.drop index) session := by
  have key : ListKey.of path statements = .located path := by
    cases statements with
    | nil => exact absurd rfl present
    | cons statement rest => rfl
  have found : session.executor.positions.get? (.located path) = some index := marked
  rw [execBlock_apply, key, found]
  rfl

theorem get?_of_clean {path : Path} {statements : List Stmt} {session : Session}
    (tidy : session.executor.positions.Tidy)
    (clean : (interpreter.listSegment path statements).Clean session) :
    session.executor.positions.get? (.of path statements) = none := by
  cases statements with
  | nil => exact tidy.empty
  | cons statement rest => exact clean (.resume (.located path)) (List.suffix_refl path)

theorem key_eq {path : Path} {statements : List Stmt} (present : statements ≠ []) :
    ListKey.of path statements = .located path := by
  cases statements with
  | nil => exact absurd rfl present
  | cons statement rest => rfl

/-- The sessions in which a list goes on with some statement. In a task that has resumed it, its
own mark may still be there. -/
structure ListStarts (path : Path) (statements : List Stmt) (alone task : Session) : Prop where
  outside : alone.Alone
  inTask : task.InTask
  beside : alone.Beside task
  cleanAlone : ∀ mark, Positions.Within path statements mark → alone.reads mark = none
  cleanTask : ∀ mark, Positions.Within path statements mark →
    mark ≠ .resume (.of path statements) → task.reads mark = none

theorem ListStarts.of_executor {path : Path} {statements : List Stmt} {alone task start : Session}
    (starts : ListStarts path statements alone task) (same : start.executor = task.executor)
    (unlimited : start.budget = none) : ListStarts path statements alone start := by
  refine ⟨starts.outside, ⟨?_, unlimited, ?_⟩, ⟨?_, ?_, ?_⟩, starts.cleanAlone, ?_⟩
  · rw [same]
    exact starts.inTask.currentTask
  · rw [same]
    exact starts.inTask.tidy
  · rw [same]
    exact starts.beside.scopes
  · rw [same]
    exact starts.beside.output
  · rw [same]
    exact starts.beside.structs
  · unfold Session.reads
    rw [same]
    exact starts.cleanTask

theorem reads_cleared {path : Path} {statements : List Stmt} {session : Session}
    (tidy : session.executor.positions.Tidy) {mark : Positions.Mark}
    (away : ¬ Positions.Within path statements mark) :
    (session.positioned (Positions.clear (.of path statements))).reads mark =
      session.reads mark := by
  refine (Positions.reads_clear tidy _ mark).trans ?_
  by_cases own : mark = .resume (.of path statements)
  · rw [if_pos own, own]
    cases statements with
    | nil => exact tidy.empty.symm
    | cons statement rest =>
        rw [own] at away
        exact absurd (List.suffix_refl path) away
  · rw [if_neg own]
    rfl

theorem calm_cleared {path : Path} {statements : List Stmt} {alone : Session}
    (outside : alone.Alone)
    (clean : ∀ mark, Positions.Within path statements mark → alone.reads mark = none)
    {result : Except Signal Unit} (goesOn : ∀ fromLoop, result ≠ .error (.suspend fromLoop))
    (returned : ∀ value, result = .error (.returning value) → value.isFutureless = true) :
    alone.Calm result (alone.positioned (Positions.clear (.of path statements))) where
  alone := { outside with tidy := outside.tidy.clear _ }
  structs := rfl
  reads mark := by
    by_cases inside : Positions.Within path statements mark
    · refine (Positions.reads_clear outside.tidy _ mark).trans ?_
      split
      · exact (clean mark inside).symm
      · rfl
    · exact reads_cleared outside.tidy inside
  goesOn := goesOn
  returned := returned

theorem ListStarts.settles {path : Path} {statements : List Stmt} {alone task : Session}
    (starts : ListStarts path statements alone task) {result : Except Signal Unit}
    (goesOn : ∀ fromLoop, result ≠ .error (.suspend fromLoop)) :
    (interpreter.listSegment path statements).Settles result
      (alone.positioned (Positions.clear (.of path statements))) task
      (.of (task.positioned (Positions.clear (.of path statements))) result) := by
  refine .ended (.of _ goesOn _) ?_ ?_ ?_
  · exact ⟨starts.beside.scopes, starts.beside.output, starts.beside.structs⟩
  · refine ⟨rfl, rfl, starts.inTask.budget, starts.inTask.tidy.clear _, ?_⟩
    intro mark away
    exact reads_cleared starts.inTask.tidy away
  · intro mark inside
    refine (Positions.reads_clear starts.inTask.tidy _ mark).trans ?_
    by_cases own : mark = .resume (.of path statements)
    · rw [if_pos own]
    · rw [if_neg own]
      exact starts.cleanTask mark inside own

section

variable {path : Path} {statements : List Stmt} {index : Nat}

/-- While a statement of a list is suspended, the marks of the others are not there. -/
def Waiting (path : Path) (statements : List Stmt) (index : Nat) (positions : Positions) : Prop :=
  ∀ mark, Positions.Within path statements mark → ¬ Positions.Under (.item index :: path) mark →
    mark ≠ .resume (.located path) → positions.reads mark = none

theorem ListStarts.waiting {alone task : Session} (starts : ListStarts path statements alone task)
    (present : statements ≠ []) : Waiting path statements index task.executor.positions := by
  intro mark within _ other
  rw [← key_eq present] at other
  exact starts.cleanTask mark within other

theorem ListStarts.head {alone task : Session} (starts : ListStarts path statements alone task)
    (present : statements ≠ []) (statement : Stmt) :
    (interpreter.statementSegment (.item index :: path) statement).Starts alone task := by
  refine ⟨starts.outside, starts.inTask, starts.beside, ?_, ?_⟩
  · intro mark under
    exact starts.cleanAlone mark (Positions.within_of_under present under).1
  · intro mark under
    obtain ⟨within, other⟩ := Positions.within_of_under present under
    rw [← key_eq present] at other
    exact starts.cleanTask mark within other

theorem list_encloses {statement : Stmt} {rest : List Stmt}
    (here : statements.drop index = statement :: rest) :
    (interpreter.listSegment path statements).Encloses
      (interpreter.statementSegment (.item index :: path) statement)
      (fun (_ : Unit) => interpreter.listEnding (.located path) path index rest) ()
      (Positions.set (.located path) index) (Waiting path statements index) := by
  have present := ne_nil_of_drop here
  constructor
  · intro mark under
    exact (Positions.within_of_under present under).1
  · intro positions mark under
    rw [Positions.reads_set, if_neg (Positions.within_of_under present under).2]
  · intro positions mark away
    rw [Positions.reads_set, if_neg]
    rintro rfl
    exact away (List.suffix_refl path)
  · intro positions tidy
    have located : ListKey.located path ≠ .empty := nofun
    exact tidy.set located index
  · intro _ after
    rfl
  · intro first second waiting same mark within away other
    rw [same mark away]
    exact waiting mark within away other
  · intro positions _ _
    refine ⟨present, ?_⟩
    have marked := Positions.reads_set (.located path) index positions (.resume (.located path))
    rw [if_pos rfl] at marked
    change ((positions.set (.located path) index).reads (.resume (.located path))).isSome = true
    rw [marked]
    rfl
  · intro left resumed waiting _ resumes
    have marked : resumed.reads (.resume (.located path)) = some index := by
      refine (resumes.inside (.resume (.located path)) (List.suffix_refl path)).trans ?_
      refine (Positions.reads_set _ _ _ _).trans ?_
      rw [if_pos rfl]
    constructor
    · intro mark within away other
      refine (resumes.inside mark within).trans ?_
      refine (Positions.reads_set _ _ _ mark).trans ?_
      rw [if_neg other]
      exact waiting mark within away other
    · change interpreter.execBlock path statements resumed = _
      rw [execBlock_resumed present marked, here, execFrom_cons]
      rfl

theorem Waiting.starts {alone start after : Session} {statement : Stmt}
    (waiting : Waiting path statements index start.executor.positions) (present : statements ≠ [])
    (outside : alone.Alone)
    (cleanAlone : ∀ mark, Positions.Within path statements mark → alone.reads mark = none)
    (inTask : after.InTask) (beside : alone.Beside after)
    (runs : (interpreter.statementSegment (.item index :: path) statement).Runs start after)
    (clean : (interpreter.statementSegment (.item index :: path) statement).Clean after) :
    ListStarts path statements alone after := by
  refine ⟨outside, inTask, beside, cleanAlone, ?_⟩
  intro mark within other
  rw [key_eq present] at other
  by_cases under : Positions.Under (.item index :: path) mark
  · exact clean mark under
  · exact (runs.outside mark under).trans (waiting mark within under other)

theorem list_givesWay (present : statements ≠ []) {rest : List Stmt}
    (next : statements.drop (index + 1) = rest) {alone after : Session}
    (starts : ListStarts path statements alone after) :
    let left := after.positioned (Positions.set (.located path) (index + 1))
    (interpreter.listSegment path statements).Runs after left ∧
      (interpreter.listSegment path statements).resting left.executor.positions ∧
      ∀ resumed, (interpreter.listSegment path statements).Resumes left resumed →
        ListStarts path statements alone resumed ∧
          (interpreter.listSegment path statements).again resumed =
            interpreter.execFrom (.located path) path (index + 1) rest resumed := by
  have located : ListKey.located path ≠ .empty := nofun
  have noted (mark : Positions.Mark) :=
    Positions.reads_set (.located path) (index + 1) after.executor.positions mark
  refine ⟨?_, ⟨present, ?_⟩, ?_⟩
  · refine ⟨rfl, rfl, starts.inTask.budget, starts.inTask.tidy.set located _, ?_⟩
    intro mark away
    refine (noted mark).trans (if_neg ?_)
    rintro rfl
    exact away (List.suffix_refl path)
  · have marked := noted (.resume (.located path))
    rw [if_pos rfl] at marked
    change ((after.executor.positions.set (.located path) (index + 1)).reads
      (.resume (.located path))).isSome = true
    rw [marked]
    rfl
  · intro resumed resumes
    have marked : resumed.reads (.resume (.located path)) = some (index + 1) := by
      refine (resumes.inside (.resume (.located path)) (List.suffix_refl path)).trans ?_
      exact (noted _).trans (if_pos rfl)
    constructor
    · refine ⟨starts.outside, ?_, ?_, starts.cleanAlone, ?_⟩
      · exact resumes.inTask { starts.inTask with tidy := starts.inTask.tidy.set located _ }
      · exact resumes.beside ⟨starts.beside.scopes, starts.beside.output, starts.beside.structs⟩
      · intro mark within other
        refine (resumes.inside mark within).trans ((noted mark).trans ?_)
        rw [key_eq present] at other
        rw [if_neg other]
        exact starts.cleanTask mark within (by rw [key_eq present]; exact other)
    · change interpreter.execBlock path statements resumed = _
      rw [execBlock_resumed present marked, next]

theorem list_yields (present : statements ≠ []) {rest : List Stmt}
    (next : statements.drop (index + 1) = rest) {alone left start after : Session}
    {result : Except Signal Unit}
    (runs : (interpreter.listSegment path statements).Runs start after)
    (starts : ListStarts path statements alone after)
    (later : ∀ resumed, ListStarts path statements alone resumed →
      (interpreter.listSegment path statements).Settles result left resumed
        (interpreter.execFrom (.located path) path (index + 1) rest resumed)) :
    (interpreter.listSegment path statements).Settles result left start
      (.raised (.suspend true) (after.positioned (Positions.set (.located path) (index + 1)))) := by
  obtain ⟨marks, rests, goesOn⟩ := @list_givesWay interpreter _ _ _ present _ next _ _ starts
  refine .suspended (runs.trans marks) rests ?_
  intro resumed resumes
  obtain ⟨started, again⟩ := goesOn resumed resumes
  rw [again]
  exact later resumed started

section

variable {statement : Stmt} {rest : List Stmt} (here : statements.drop index = statement :: rest)
  {alone task middle : Session} (starts : ListStarts path statements alone task)

include here starts

theorem statement_passes (calm : alone.Calm (.ok ()) middle)
    (settles : (interpreter.statementSegment (.item index :: path) statement).Settles (.ok ()) middle
      task (interpreter.exec (.item index :: path) statement task))
    {left : Session} {result : Except Signal Unit}
    (later : ∀ session, ListStarts path statements middle session →
      middle.Calm result left ∧
        (interpreter.listSegment path statements).Settles result left session
          (interpreter.execFrom (.located path) path (index + 1) rest session)) :
    alone.Calm result left ∧
      (interpreter.listSegment path statements).Settles result left task
        (interpreter.listEnding (.located path) path index rest
          (interpreter.exec (.item index :: path) statement task)) := by
  have present := ne_nil_of_drop here
  have encloses := @list_encloses interpreter path statements index statement rest here
  have cleanMiddle (mark : Positions.Mark) (within : Positions.Within path statements mark) :
      middle.reads mark = none :=
    (calm.reads mark).trans (starts.cleanAlone mark within)
  constructor
  · have somewhere := later _ ⟨calm.alone, starts.inTask.showing _ _, calm.beside starts.beside,
      cleanMiddle, starts.cleanTask⟩
    exact calm.trans somewhere.1
  · refine settles.enclose encloses ?_ starts.inTask (starts.waiting present) ()
    intro _ start after outcome inTask waits completes beside runs clean
    have goesOn := waits.starts present calm.alone cleanMiddle (runs.inTask inTask) beside runs clean
    cases completes with
    | done => exact (later after goesOn).2.prepend (runs.widen encloses.within)
    | yielded _ =>
        refine list_yields present (drop_succ_of_drop here) (runs.widen encloses.within) goesOn ?_
        intro resumed starts
        exact (later resumed starts).2

theorem statement_breaks {signal : Signal} (calm : alone.Calm (.error signal) middle)
    (settles : (interpreter.statementSegment (.item index :: path) statement).Settles (.error signal)
      middle task (interpreter.exec (.item index :: path) statement task))
    {left : Session} {result : Except Signal Unit}
    (ended : interpreter.listEnding (.located path) path index rest (.raised signal middle) =
      .of left result) :
    alone.Calm result left ∧
      (interpreter.listSegment path statements).Settles result left task
        (interpreter.listEnding (.located path) path index rest
          (interpreter.exec (.item index :: path) statement task)) := by
  have present := ne_nil_of_drop here
  have encloses := @list_encloses interpreter path statements index statement rest here
  have broken (after : Session) :
      interpreter.listEnding (.located path) path index rest (.raised signal after) =
        .raised signal (after.positioned (Positions.clear (.of path statements))) := by
    rw [key_eq present]
    exact interpreter.listEnding_broken fun fromLoop same => calm.goesOn fromLoop (by rw [same])
  have cleanMiddle (mark : Positions.Mark) (within : Positions.Within path statements mark) :
      middle.reads mark = none :=
    (calm.reads mark).trans (starts.cleanAlone mark within)
  have leaves : Outcome.of (middle.positioned (Positions.clear (.of path statements)))
      (.error signal) = .of left result := (broken middle).symm.trans ended
  obtain ⟨rfl, rfl⟩ := Outcome.of_inj leaves
  constructor
  · exact calm.trans (calm_cleared calm.alone cleanMiddle calm.goesOn calm.returned)
  · refine settles.enclose encloses ?_ starts.inTask (starts.waiting present) ()
    intro _ start after outcome inTask waits completes beside runs clean
    have goesOn := waits.starts present calm.alone cleanMiddle (runs.inTask inTask) beside runs clean
    cases completes with
    | broken _ =>
        have ending : (interpreter.listSegment path statements).Settles _ _ _ _ :=
          goesOn.settles calm.goesOn
        rw [broken after]
        exact ending.prepend (runs.widen encloses.within)

end

theorem execFrom_settles (settling : interpreter.Settling) {rest : List Stmt}
    (plain : arePlain rest = true) (here : statements.drop index = rest) {alone task left : Session}
    (starts : ListStarts path statements alone task) {result : Except Signal Unit}
    (ended : interpreter.execFrom (.of path statements) path index rest alone = .of left result) :
    alone.Calm result left ∧
      (interpreter.listSegment path statements).Settles result left task
        (interpreter.execFrom (.of path statements) path index rest task) := by
  induction rest generalizing index alone task with
  | nil =>
      have leaves : Outcome.of (alone.positioned (Positions.clear (.of path statements))) (.ok ()) =
          .of left result := ended
      obtain ⟨rfl, rfl⟩ := Outcome.of_inj leaves
      exact ⟨calm_cleared starts.outside starts.cleanAlone nofun nofun, starts.settles nofun⟩
  | cons statement rest ih =>
      have present := ne_nil_of_drop here
      simp only [arePlain, Bool.and_eq_true] at plain
      have follows := settling (.item index :: path) statement plain.1 alone task
        (starts.head present statement)
      rw [key_eq present] at ended ih ⊢
      rw [execFrom_cons] at ended ⊢
      cases run : interpreter.exec (.item index :: path) statement alone with
      | halted moment =>
          rw [run] at ended
          cases result <;> cases ended
      | done value middle =>
          rw [run] at ended
          obtain ⟨calm, settles⟩ := follows (.ok ()) middle run
          exact statement_passes here starts calm settles fun session goesOn =>
            ih plain.2 (drop_succ_of_drop here) goesOn ended
      | raised signal middle =>
          rw [run] at ended
          obtain ⟨calm, settles⟩ := follows (.error signal) middle run
          exact statement_breaks here starts calm settles ended

end

theorem execBlock_follows (settling : interpreter.Settling) (path : Path) {statements : List Stmt}
    (plain : arePlain statements = true) :
    (interpreter.listSegment path statements).Follows (interpreter.execBlock path statements)
      (interpreter.execBlock path statements) := by
  intro alone task starts result left ended
  rw [execBlock_apply, get?_of_clean starts.outside.tidy starts.cleanAlone] at ended
  rw [execBlock_apply, get?_of_clean starts.inTask.tidy starts.cleanTask]
  refine execFrom_settles settling plain rfl ?_ ended
  exact ⟨starts.outside, starts.inTask, starts.beside, starts.cleanAlone,
    fun mark within _ => starts.cleanTask mark within⟩

/-! ### Branches and blocks -/

section

variable {path : Path}

theorem marked_resumed {statement : Stmt} {turn : Turn} {list : List Stmt} {left resumed : Session}
    (resumes : (interpreter.statementSegment path statement).Resumes left resumed)
    (rests : (interpreter.listSegment (turn :: path) list).resting left.executor.positions) :
    (resumed.executor.positions.get? (.of (turn :: path) list)).isSome = true := by
  have below : Positions.Under path (.resume (.located (turn :: path))) :=
    Positions.suffix_of_cons (List.suffix_refl _)
  have same : resumed.executor.positions.get? (.located (turn :: path)) =
      left.executor.positions.get? (.located (turn :: path)) :=
    resumes.inside (.resume (.located (turn :: path))) below
  rw [key_eq rests.1, same]
  exact rests.2

theorem unmarked_of_clean {statement : Stmt} {session : Session}
    (tidy : session.executor.positions.Tidy)
    (clean : (interpreter.statementSegment path statement).Clean session) (turn : Turn)
    (list : List Stmt) : session.executor.positions.get? (.of (turn :: path) list) = none := by
  refine @get?_of_clean interpreter _ _ _ tidy ?_
  intro mark within
  exact clean mark (Positions.under_of_within within)

theorem execIf_eq_then {condition : Expr} {thenBranch elseBranch : List Stmt} {session : Session}
    (marked : (session.executor.positions.get? (.of (.thenBranch :: path) thenBranch)).isSome = true) :
    interpreter.execIf path condition thenBranch elseBranch session =
      interpreter.execBlock (.thenBranch :: path) thenBranch session := by
  unfold execIf
  rw [Act.executor_bind, if_pos marked]

theorem execIf_eq_else {condition : Expr} {thenBranch elseBranch : List Stmt} {session : Session}
    (unmarked : session.executor.positions.get? (.of (.thenBranch :: path) thenBranch) = none)
    (marked : (session.executor.positions.get? (.of (.elseBranch :: path) elseBranch)).isSome = true) :
    interpreter.execIf path condition thenBranch elseBranch session =
      interpreter.execBlock (.elseBranch :: path) elseBranch session := by
  unfold execIf
  rw [Act.executor_bind, unmarked, if_neg (by simp), if_pos marked]

theorem execIf_fresh {condition : Expr} {thenBranch elseBranch : List Stmt} {session : Session}
    (first : session.executor.positions.get? (.of (.thenBranch :: path) thenBranch) = none)
    (second : session.executor.positions.get? (.of (.elseBranch :: path) elseBranch) = none) :
    interpreter.execIf path condition thenBranch elseBranch session =
      (do
        if ← interpreter.evalCondition condition then
          interpreter.execBlock (.thenBranch :: path) thenBranch
        else
          interpreter.execBlock (.elseBranch :: path) elseBranch : Act Unit) session := by
  unfold execIf
  rw [Act.executor_bind, first, second, if_neg (by simp), if_neg (by simp)]

end

/-! ### Loops -/

section

variable {interpreter : Interpreter} (path : Path) (condition : Option Expr) (update : Option Stmt) (body : List Stmt)

variable (interpreter) in
def looping (turns : Nat) : Act Unit :=
  Act.iterate turns (interpreter.iteration path condition update body) ()

variable (interpreter) in
/-- The loop goes on after its body has been executed. -/
def nextIteration (turns : Nat) : Act Unit := do
  interpreter.execPart (.update :: path) update
  interpreter.endIteration
  interpreter.looping path condition update body turns

variable (interpreter) in
def loopEnding (turns : Nat) : Outcome Unit → Outcome Unit
  | .done () after => interpreter.nextIteration path condition update body turns after
  | .raised .continueLoop after => interpreter.nextIteration path condition update body turns after
  | .raised .breakLoop after => .done () after
  | .raised signal after => .raised signal after
  | .halted moment => .halted moment

theorem looping_succ (turns : Nat) (session : Session) :
    interpreter.looping path condition update body (turns + 1) session =
      match interpreter.entersBody path condition body session with
      | .done true after =>
          interpreter.loopEnding path condition update body turns
            (interpreter.execBlock (.body :: path) body after)
      | .done false after => .done () after
      | .raised signal after => .raised signal after
      | .halted moment => .halted moment := by
  let goOn : Option Unit → Act Unit
    | none => return ()
    | some () => interpreter.looping path condition update body turns
  have unfolded : interpreter.looping path condition update body (turns + 1) =
      interpreter.iteration path condition update body () >>= goOn := by
    unfold looping
    rw [Act.iterate_succ]
    congr 1
    funext next
    cases next <;> rfl
  -- What a finished iteration leads to is the next one, with what comes in between.
  have finished :
      (do
        interpreter.execPart (.update :: path) update
        interpreter.endIteration
        return some ()) >>= goOn =
        interpreter.nextIteration path condition update body turns := by
    rw [Act.bind_assoc]
    unfold nextIteration
    congr 1
    funext _
    rw [Act.bind_assoc]
    rfl
  rw [unfolded, iteration, Act.bind_assoc, Act.bind_apply]
  cases interpreter.entersBody path condition body session with
  | halted moment => rfl
  | raised signal after => rfl
  | done enters after =>
      cases enters with
      | false => rfl
      | true =>
          change ((execBody interpreter path body >>= _) >>= goOn) after =
            interpreter.loopEnding path condition update body turns
              (interpreter.execBlock (.body :: path) body after)
          rw [Act.bind_assoc, execBody, Act.bind_assoc, Act.attempt_bind]
          cases interpreter.execBlock (.body :: path) body after with
          | halted moment => rfl
          | done value middle => exact congrFun finished middle
          | raised signal middle =>
              cases signal with
              | continueLoop => exact congrFun finished middle
              | _ => rfl

variable {path condition update body}

theorem entersBody_resumed {session : Session}
    (marked : (session.executor.positions.get? (.of (.body :: path) body)).isSome = true) :
    interpreter.entersBody path condition body session = .done true session := by
  unfold entersBody
  rw [Act.executor_bind, if_pos marked]
  rfl

theorem entersBody_fresh (looks : interpreter.LooksAt) (plain : condition.all Expr.isPlain = true)
    {alone task : Session} (beside : alone.Beside task)
    (first : alone.executor.positions.get? (.of (.body :: path) body) = none)
    (second : task.executor.positions.get? (.of (.body :: path) body) = none) :
    Outcome.Looked (fun _ => True) alone task (interpreter.entersBody path condition body alone)
      (interpreter.entersBody path condition body task) := by
  unfold entersBody
  rw [Act.executor_bind, Act.executor_bind, first, second, if_neg (by simp)]
  cases condition with
  | none => exact .done true fun _ => trivial
  | some expr => exact evalCondition_looks looks plain alone task beside.lookups beside.structs

theorem endIteration_alone {session : Session} (outside : session.executor.currentTask = none)
    (queue : session.scheduler.queue.ids = []) :
    interpreter.endIteration session = .done () session := by
  unfold endIteration
  rw [Act.executor_bind, if_neg (by simp [outside]), Act.scheduler_bind, if_neg]
  · rfl
  · simp [Scheduler.hasQueued, ReadyQueue.isEmpty, queue]

def givingWay (session : Session) : Session :=
  { session with journal := .loopSuspended session.executor.currentTask :: session.journal }

theorem endIteration_task {session : Session} (inTask : session.InTask) :
    interpreter.endIteration session =
      if session.executor.autoYield then .raised (.suspend true) (givingWay session)
      else .done () session := by
  unfold endIteration
  rw [Act.executor_bind, if_pos inTask.currentTask]
  split
  · have unlimited : (givingWay session).budget = none := inTask.budget
    have noted : Act.note (.loopSuspended session.executor.currentTask) session =
        .done () (givingWay session) :=
      Act.moment_unlimited unlimited
    rw [Act.bind_apply, noted]
    rfl
  · rfl

theorem nextIteration_settles {turns : Nat} (bounded : turns ≤ interpreter.turns)
    (part : (interpreter.execPart (.update :: path) update).ActsAlike)
    {left : Session} {result : Except Signal Unit}
    (later : ∀ alone task,
      (interpreter.loopSegment path condition update body).Starts alone task →
      interpreter.looping path condition update body turns alone = .of left result →
        alone.Calm result left ∧ ∀ more,
          (interpreter.loopSegment path condition update body).Settles result left task
            (interpreter.looping path condition update body (turns + more) task))
    {alone task : Session}
    (starts : (interpreter.loopSegment path condition update body).Starts alone task)
    (ended : interpreter.nextIteration path condition update body turns alone = .of left result) :
    alone.Calm result left ∧ ∀ more,
      (interpreter.loopSegment path condition update body).Settles result left task
        (interpreter.nextIteration path condition update body (turns + more) task) := by
  have alike := part alone task starts.outside starts.inTask starts.beside
  unfold nextIteration at ended ⊢
  simp only [Act.bind_apply] at ended ⊢
  generalize interpreter.execPart (.update :: path) update alone = outcome at alike ended
  generalize interpreter.execPart (.update :: path) update task = outcome' at alike ⊢
  cases alike with
  | halted => cases result <;> cases ended
  | @ended other goesOn returned scopes futureless output =>
      have calm := starts.outside.calm_showing goesOn returned futureless output
      cases other with
      | error signal =>
          have settled := starts.settles (.ended (.error signal) goesOn returned futureless output) ended
          exact ⟨settled.1, fun _ => settled.2⟩
      | ok value =>
          have middle : (interpreter.loopSegment path condition update body).Starts
              (alone.showing scopes output) (task.showing scopes output) :=
            ⟨starts.outside.showing futureless output, starts.inTask.showing scopes output,
              ⟨rfl, rfl, starts.beside.structs⟩, starts.cleanAlone, starts.cleanTask⟩
          have before : (interpreter.loopSegment path condition update body).Runs task
              (task.showing scopes output) :=
            .showing starts.inTask scopes output
          simp only [Outcome.of] at ended ⊢
          rw [endIteration_alone middle.outside.currentTask middle.outside.queue] at ended
          rw [endIteration_task middle.inTask]
          have next := later _ _ middle ended
          refine ⟨calm.trans next.1, fun more => ?_⟩
          by_cases yields : (task.showing scopes output).executor.autoYield = true
          · -- The task gives way, and finds the loop between two iterations.
            rw [if_pos yields]
            refine .suspended (before.trans ?_) trivial ?_
            · exact ⟨rfl, rfl, starts.inTask.budget, starts.inTask.tidy, fun _ _ => rfl⟩
            · intro resumed resumes
              have again := later _ resumed
                ⟨middle.outside, resumes.inTask { middle.inTask with }, ?_, middle.cleanAlone, ?_⟩ ended
              · have entered := again.2 (interpreter.turns - turns)
                rw [Nat.add_sub_cancel' bounded] at entered
                exact entered
              · exact resumes.beside ⟨rfl, rfl, starts.beside.structs⟩
              · intro mark inside
                exact (resumes.inside mark inside).trans (middle.cleanTask mark inside)
          · rw [if_neg yields]
            exact (next.2 more).prepend before

theorem loop_starts_body {alone task : Session}
    (starts : (interpreter.loopSegment path condition update body).Starts alone task) :
    (interpreter.listSegment (.body :: path) body).Starts alone task :=
  ⟨starts.outside, starts.inTask, starts.beside, starts.cleanAlone, starts.cleanTask⟩

theorem loop_encloses {turns more : Nat} (total : turns + more + 1 = interpreter.turns) :
    (interpreter.loopSegment path condition update body).Encloses
      (interpreter.listSegment (.body :: path) body)
      (fun more => interpreter.loopEnding path condition update body (turns + more)) more
      (fun positions => positions) (fun _ => True) := by
  refine ⟨fun _ inside => inside, fun _ _ _ => rfl, fun _ _ _ => rfl, fun _ tidy => tidy,
    fun _ _ => rfl, fun _ _ _ _ => trivial, fun _ _ _ => trivial, ?_⟩
  intro left resumed _ rests resumes
  refine ⟨trivial, ?_⟩
  have marked : (resumed.executor.positions.get? (.of (.body :: path) body)).isSome = true := by
    have same : resumed.executor.positions.get? (.located (.body :: path)) =
        left.executor.positions.get? (.located (.body :: path)) :=
      resumes.inside (.resume (.located (.body :: path))) (List.suffix_refl _)
    rw [key_eq rests.1, same]
    exact rests.2
  change interpreter.looping path condition update body interpreter.turns resumed = _
  rw [← total, looping_succ, entersBody_resumed marked]
  rfl

section

variable {turns more : Nat} (total : turns + more + 1 = interpreter.turns)
  {alone task middle : Session} {ending : Except Signal Unit}
  (starts : (interpreter.loopSegment path condition update body).Starts alone task)
  (calm : alone.Calm ending middle)
  (settles : (interpreter.listSegment (.body :: path) body).Settles ending middle task
    (interpreter.execBlock (.body :: path) body task))

include total starts calm settles

theorem body_stops {result : Except Signal Unit}
    (goesOn : ∀ fromLoop, result ≠ .error (.suspend fromLoop))
    (returned : ∀ value, result = .error (.returning value) → value.isFutureless = true)
    (stops : ∀ turns outcome after,
      (interpreter.listSegment (.body :: path) body).Completes outcome ending after →
        interpreter.loopEnding path condition update body turns outcome = .of after result) :
    alone.Calm result middle ∧ ∀ more,
      (interpreter.loopSegment path condition update body).Settles result middle task
        (interpreter.loopEnding path condition update body (turns + more)
          (interpreter.execBlock (.body :: path) body task)) := by
  refine ⟨{ calm with goesOn, returned }, fun more => ?_⟩
  refine settles.enclose (loop_encloses total) ?_ starts.inTask trivial more
  intro more start after outcome _ _ completes beside runs clean
  rw [stops _ _ _ completes]
  exact .ended (.of _ goesOn after) beside (runs.widen fun _ inside => inside) clean

theorem body_iterates {left : Session} {result : Except Signal Unit}
    (iterates : ∀ turns outcome after,
      (interpreter.listSegment (.body :: path) body).Completes outcome ending after →
        interpreter.loopEnding path condition update body turns outcome =
          interpreter.nextIteration path condition update body turns after)
    (next : ∀ session,
      (interpreter.loopSegment path condition update body).Starts middle session →
        middle.Calm result left ∧ ∀ more,
          (interpreter.loopSegment path condition update body).Settles result left session
            (interpreter.nextIteration path condition update body (turns + more) session)) :
    alone.Calm result left ∧ ∀ more,
      (interpreter.loopSegment path condition update body).Settles result left task
        (interpreter.loopEnding path condition update body (turns + more)
          (interpreter.execBlock (.body :: path) body task)) := by
  have clean (mark : Positions.Mark) (inside : Positions.Within (.body :: path) body mark) :
      middle.reads mark = none :=
    (calm.reads mark).trans (starts.cleanAlone mark inside)
  constructor
  · have somewhere := next _ ⟨calm.alone, starts.inTask.showing _ _, calm.beside starts.beside,
      clean, starts.cleanTask⟩
    exact calm.trans somewhere.1
  · intro more
    refine settles.enclose (loop_encloses total) ?_ starts.inTask trivial more
    intro more start after outcome inTask _ completes beside runs cleaned
    have entered := next after ⟨calm.alone, runs.inTask inTask, beside, clean, cleaned⟩
    rw [iterates _ _ _ completes]
    exact (entered.2 more).prepend (runs.widen fun _ inside => inside)

end

/-- The body has been run once, alone and in the task: however it comes out, the loop settles if what
comes after an iteration does. -/
theorem body_settles {turns more : Nat} (total : turns + more + 1 = interpreter.turns)
    {alone task left : Session} {result : Except Signal Unit}
    (starts : (interpreter.loopSegment path condition update body).Starts alone task)
    (follows : (interpreter.listSegment (.body :: path) body).Follows
      (interpreter.execBlock (.body :: path) body) (interpreter.execBlock (.body :: path) body))
    (next : ∀ middle,
      interpreter.nextIteration path condition update body turns middle = .of left result →
        ∀ session, (interpreter.loopSegment path condition update body).Starts middle session →
          middle.Calm result left ∧ ∀ more,
            (interpreter.loopSegment path condition update body).Settles result left session
              (interpreter.nextIteration path condition update body (turns + more) session))
    (ended : interpreter.loopEnding path condition update body turns
      (interpreter.execBlock (.body :: path) body alone) = .of left result) :
    alone.Calm result left ∧ ∀ more,
      (interpreter.loopSegment path condition update body).Settles result left task
        (interpreter.loopEnding path condition update body (turns + more)
          (interpreter.execBlock (.body :: path) body task)) := by
  have inner := follows alone task (loop_starts_body starts)
  -- What the body comes to alone decides whether there is another iteration in the task as well.
  cases run : interpreter.execBlock (.body :: path) body alone with
  | halted moment =>
      rw [run] at ended
      cases result <;> cases ended
  | done value middle =>
      rw [run] at ended
      obtain ⟨calm, settles⟩ := inner (.ok ()) middle run
      refine body_iterates total starts calm settles ?_ (next middle ended)
      intro turns outcome after completes
      cases completes with
      | done => rfl
      | yielded impossible => exact impossible.elim
  | raised signal middle =>
      rw [run] at ended
      obtain ⟨calm, settles⟩ := inner (.error signal) middle run
      have stops (ending : Except Signal Unit)
          (goesOn : ∀ fromLoop, ending ≠ .error (.suspend fromLoop))
          (returned : ∀ value, ending = .error (.returning value) → value.isFutureless = true)
          (leaves : ∀ turns after, interpreter.loopEnding path condition update body turns
            (.raised signal after) = .of after ending) :
          alone.Calm result left ∧ ∀ more,
            (interpreter.loopSegment path condition update body).Settles result left task
              (interpreter.loopEnding path condition update body (turns + more)
                (interpreter.execBlock (.body :: path) body task)) := by
        obtain ⟨rfl, rfl⟩ := Outcome.of_inj ((leaves turns middle).symm.trans ended)
        refine body_stops total starts calm settles goesOn returned ?_
        intro turns outcome after completes
        cases completes
        exact leaves turns after
      cases signal with
      | suspend fromLoop => exact absurd rfl (calm.goesOn fromLoop)
      | continueLoop =>
          refine body_iterates total starts calm settles ?_ (next middle ended)
          intro turns outcome after completes
          cases completes
          rfl
      | breakLoop => exact stops (.ok ()) nofun nofun fun _ _ => rfl
      | returning value => exact stops (.error _) calm.goesOn calm.returned fun _ _ => rfl
      | fault cause => exact stops (.error _) calm.goesOn calm.returned fun _ _ => rfl

theorem looping_settles (settling : interpreter.Settling) (looks : interpreter.LooksAt)
    (tests : condition.all Expr.isPlain = true) (plain : arePlain body = true)
    (part : (interpreter.execPart (.update :: path) update).ActsAlike) {turns : Nat}
    (bounded : turns ≤ interpreter.turns) {alone task left : Session} {result : Except Signal Unit}
    (starts : (interpreter.loopSegment path condition update body).Starts alone task)
    (ended : interpreter.looping path condition update body turns alone = .of left result) :
    alone.Calm result left ∧ ∀ more,
      (interpreter.loopSegment path condition update body).Settles result left task
        (interpreter.looping path condition update body (turns + more) task) := by
  -- On the turns that are left to the loop outside; in the task there may be more of them.
  induction turns generalizing alone task with
  | zero => cases result <;> cases ended
  | succ turns ih =>
      have below : turns ≤ interpreter.turns := Nat.le_of_succ_le bounded
      obtain ⟨more, total⟩ : ∃ more, turns + more + 1 = interpreter.turns := by
        obtain ⟨more, same⟩ := Nat.le.dest bounded
        exact ⟨more, by omega⟩
      have looked := entersBody_fresh looks tests starts.beside
        (@get?_of_clean interpreter _ _ _ starts.outside.tidy starts.cleanAlone)
        (@get?_of_clean interpreter _ _ _ starts.inTask.tidy starts.cleanTask)
      have unfolded (more : Nat) : turns + 1 + more = turns + more + 1 := by omega
      simp only [unfolded, looping_succ] at ended ⊢
      generalize interpreter.entersBody path condition body alone = tested at looked ended
      generalize interpreter.entersBody path condition body task = tested' at looked
      cases looked with
      | halted => cases result <;> cases ended
      | raised cause =>
          have alike := Act.ActsAlike.same starts.outside starts.beside (.error (.fault cause)) nofun nofun
          have settled := starts.settles alike ended
          exact ⟨settled.1, fun _ => settled.2⟩
      | done enters =>
          cases enters with
          | false =>
              have alike := Act.ActsAlike.same starts.outside starts.beside (.ok ()) nofun nofun
              have settled := starts.settles alike ended
              exact ⟨settled.1, fun _ => settled.2⟩
          | true =>
              exact body_settles total starts (execBlock_follows settling (.body :: path) plain)
                (fun _ goesOn _ entered => nextIteration_settles below part
                  (fun _ _ starts ended => ih below starts ended) entered goesOn) ended

theorem execLoop_follows (settling : interpreter.Settling) (looks : interpreter.LooksAt)
    (tests : condition.all Expr.isPlain = true) (plain : arePlain body = true)
    (part : (interpreter.execPart (.update :: path) update).ActsAlike) :
    (interpreter.loopSegment path condition update body).Follows
      (interpreter.execLoop path condition update body)
      (interpreter.execLoop path condition update body) := by
  intro alone task starts result left ended
  obtain ⟨calm, settles⟩ := looping_settles settling looks tests plain part
    (Nat.le_refl interpreter.turns) starts ended
  exact ⟨calm, settles 0⟩

/-! A loop with an initialiser is marked as entered from its initialiser on until it is left. -/

/-- The session after a loop has been left, and its variable with it. -/
def leftLoop (key : ListKey) (init : Option Stmt) (session : Session) : Session :=
  (session.positioned (Positions.exitLoop key)).showing
    (match loopVariable? init with
      | none => session.executor.scopes
      | some name => session.executor.scopes.modifyCurrent (Scope.remove name))
    session.executor.output

theorem leaveLoop_apply {key : ListKey} {init : Option Stmt} {result : Except Signal Unit}
    (goesOn : ∀ fromLoop, result ≠ .error (.suspend fromLoop)) (session : Session) :
    leaveLoop key init result session = .of (leftLoop key init session) result := by
  unfold leftLoop
  cases result with
  | ok value =>
      unfold leaveLoop
      cases loopVariable? init <;> rfl
  | error signal =>
      cases signal with
      | suspend fromLoop => exact absurd rfl (goesOn fromLoop)
      | _ =>
          unfold leaveLoop
          cases loopVariable? init <;> rfl

def forEnding (key : ListKey) (init : Option Stmt) : Outcome Unit → Outcome Unit
  | .done () after => leaveLoop key init (.ok ()) after
  | .raised signal after => leaveLoop key init (.error signal) after
  | .halted moment => .halted moment

theorem attempt_leaveLoop (key : ListKey) (init : Option Stmt) (loop : Act Unit)
    (session : Session) :
    (Act.attempt loop >>= leaveLoop key init) session = forEnding key init (loop session) := by
  rw [Act.attempt_bind]
  cases loop session <;> rfl

theorem forEnding_of {key : ListKey} {init : Option Stmt} {result : Except Signal Unit}
    (goesOn : ∀ fromLoop, result ≠ .error (.suspend fromLoop)) (after : Session) :
    forEnding key init (.of after result) = .of (leftLoop key init after) result := by
  rw [← leaveLoop_apply goesOn]
  cases result <;> rfl

theorem execFor_entered {init : Option Stmt} {session : Session}
    (entered : session.executor.positions.loopEntered (.of (.body :: path) body) = true) :
    interpreter.execFor path init condition update body session =
      forEnding (.of (.body :: path) body) init
        (interpreter.execLoop path condition update body session) := by
  rw [execFor_eq, Act.executor_bind, if_pos entered]
  exact attempt_leaveLoop _ init _ session

theorem execFor_fresh {init : Option Stmt} {session : Session}
    (fresh : session.executor.positions.loopEntered (.of (.body :: path) body) = false) :
    interpreter.execFor path init condition update body session =
      match interpreter.execPart (.init :: path) init session with
      | .done () after =>
          forEnding (.of (.body :: path) body) init
            (interpreter.execLoop path condition update body
              (after.positioned (Positions.enterLoop (.of (.body :: path) body))))
      | .raised signal after => .raised signal after
      | .halted moment => .halted moment := by
  have differs : ¬ session.executor.positions.loopEntered (.of (.body :: path) body) = true := by
    rw [fresh]
    exact Bool.false_ne_true
  rw [execFor_eq, Act.executor_bind, if_neg differs, Act.bind_apply]
  cases interpreter.execPart (.init :: path) init session with
  | halted moment => rfl
  | raised signal after => rfl
  | done value after =>
      exact attempt_leaveLoop _ init _
        (after.positioned (Positions.enterLoop (.of (.body :: path) body)))

/-- The loop is entered, and no other mark of its statement is there but those of its body. -/
def InLoop (path : Path) (body : List Stmt) (positions : Positions) : Prop :=
  positions.reads (.entered (.of (.body :: path) body)) = some 0 ∧
    ∀ mark, Positions.Under path mark → ¬ Positions.Within (.body :: path) body mark →
      mark ≠ .entered (.of (.body :: path) body) → positions.reads mark = none

theorem InLoop.enter {session : Session}
    (clean : ∀ mark, Positions.Under path mark → session.reads mark = none) :
    InLoop path body
      (session.positioned (Positions.enterLoop (.of (.body :: path) body))).executor.positions := by
  have reads := Positions.reads_enterLoop (.of (.body :: path) body) session.executor.positions
  constructor
  · exact (reads _).trans (if_pos rfl)
  · intro mark under _ other
    exact ((reads mark).trans (if_neg other)).trans (clean mark under)

theorem InLoop.entered {session : Session} (inLoop : InLoop path body session.executor.positions) :
    session.executor.positions.loopEntered (.of (.body :: path) body) = true := by
  have marked : (if session.executor.positions.loopEntered (.of (.body :: path) body) then some 0
      else none) = some 0 := inLoop.1
  cases entered : session.executor.positions.loopEntered (.of (.body :: path) body) with
  | true => rfl
  | false =>
      rw [entered] at marked
      cases marked

theorem InLoop.stable {first second : Positions} (inLoop : InLoop path body first)
    (same : ∀ mark, Positions.Under path mark → ¬ Positions.Within (.body :: path) body mark →
      second.reads mark = first.reads mark) : InLoop path body second := by
  obtain ⟨own, apart⟩ := Positions.entered_body path body
  constructor
  · exact (same _ own apart).trans inLoop.1
  · intro mark under away other
    exact (same mark under away).trans (inLoop.2 mark under away other)

theorem reads_leftLoop {init : Option Stmt} {session : Session}
    (tidy : session.executor.positions.Tidy) (mark : Positions.Mark) :
    (leftLoop (.of (.body :: path) body) init session).reads mark =
      if mark = .entered (.of (.body :: path) body) then none else session.reads mark :=
  Positions.reads_exitLoop tidy _ mark

theorem futureless_leftLoop {key : ListKey} {init : Option Stmt} {session : Session}
    (futureless : session.executor.scopes.isFutureless = true) :
    (leftLoop key init session).executor.scopes.isFutureless = true := by
  change (match loopVariable? init with
    | none => session.executor.scopes
    | some name => session.executor.scopes.modifyCurrent (Scope.remove name)).isFutureless = true
  cases loopVariable? init with
  | none => exact futureless
  | some name =>
      refine ScopeStack.isFutureless_modifyCurrent futureless ?_
      intro scope bindings
      exact Value.areFutureless_erase bindings name

theorem beside_leftLoop {key : ListKey} {init : Option Stmt} {alone task : Session}
    (beside : alone.Beside task) : (leftLoop key init alone).Beside (leftLoop key init task) := by
  refine ⟨?_, beside.output, beside.structs⟩
  change (match loopVariable? init with
    | none => task.executor.scopes
    | some name => task.executor.scopes.modifyCurrent (Scope.remove name)) = _
  rw [beside.scopes]
  rfl

end

end Interpreter

section

variable {depth : Nat} (settling : (interpreter depth).Settling) (path : Path)

theorem exec_resumed {statement : Stmt} {left resumed : Session}
    (resumes : ((interpreter (depth + 1)).statementSegment path statement).Resumes left resumed) :
    ((interpreter (depth + 1)).statementSegment path statement).again resumed =
      (interpreter depth).perform path statement resumed :=
  interpreter_exec resumes.budget depth path statement

include settling

theorem enters_list {statement : Stmt} {turn : Turn} {list : List Stmt}
    (plain : arePlain list = true)
    (enters : ∀ resumed : Session, resumed.executor.positions.Tidy →
      (resumed.executor.positions.get? (.of (turn :: path) list)).isSome = true →
      Segment.CleanBetween ((interpreter (depth + 1)).statementSegment path statement)
        ((interpreter depth).listSegment (turn :: path) list) resumed.executor.positions →
      (interpreter depth).perform path statement resumed =
        (interpreter depth).execBlock (turn :: path) list resumed)
    {alone task left : Session} {result : Except Signal Unit}
    (starts : ((interpreter (depth + 1)).statementSegment path statement).Starts alone task)
    (ended : (interpreter depth).execBlock (turn :: path) list alone = .of left result) :
    alone.Calm result left ∧
      ((interpreter (depth + 1)).statementSegment path statement).Settles result left task
        ((interpreter depth).execBlock (turn :: path) list task) := by
  have inner := Interpreter.execBlock_follows settling (turn :: path) plain
  obtain ⟨calm, settles⟩ := inner alone task (starts.narrow fun _ => Positions.under_of_within)
    result left ended
  refine ⟨calm, settles.pass (fun _ => Positions.under_of_within) (fun _ _ => trivial) ?_ False.elim
    starts.inTask fun mark inside _ => starts.cleanTask mark inside⟩
  intro left resumed rests between resumes
  rw [exec_resumed path resumes]
  exact enters resumed resumes.tidy (Interpreter.marked_resumed resumes rests) between

omit settling in
theorem if_tests {condition : Expr} {thenBranch elseBranch : List Stmt} {session : Session}
    (tidy : session.executor.positions.Tidy)
    (clean : ((interpreter (depth + 1)).statementSegment path
      (.ifThen condition thenBranch elseBranch)).Clean session) :
    (interpreter depth).execIf path condition thenBranch elseBranch session =
      (do
        if ← (interpreter depth).evalCondition condition then
          (interpreter depth).execBlock (.thenBranch :: path) thenBranch
        else
          (interpreter depth).execBlock (.elseBranch :: path) elseBranch : Act Unit) session :=
  Interpreter.execIf_fresh (Interpreter.unmarked_of_clean tidy clean .thenBranch thenBranch)
    (Interpreter.unmarked_of_clean tidy clean .elseBranch elseBranch)

omit settling in
theorem if_resumes_else {condition : Expr} {thenBranch elseBranch : List Stmt} {resumed : Session}
    (tidy : resumed.executor.positions.Tidy)
    (marked : (resumed.executor.positions.get? (.of (.elseBranch :: path) elseBranch)).isSome = true)
    (between : Segment.CleanBetween
      ((interpreter (depth + 1)).statementSegment path (.ifThen condition thenBranch elseBranch))
      ((interpreter depth).listSegment (.elseBranch :: path) elseBranch)
      resumed.executor.positions) :
    (interpreter depth).execIf path condition thenBranch elseBranch resumed =
      (interpreter depth).execBlock (.elseBranch :: path) elseBranch resumed := by
  refine Interpreter.execIf_eq_else ?_ marked
  cases thenBranch with
  | nil => exact tidy.empty
  | cons statement rest =>
      refine between (.resume (.located (.thenBranch :: path)))
        (Positions.suffix_of_cons (List.suffix_refl _)) ?_
      intro below
      have same := List.IsSuffix.eq_of_length below rfl
      cases same

theorem execIf_follows {condition : Expr} {thenBranch elseBranch : List Stmt}
    (plain : (Stmt.ifThen condition thenBranch elseBranch).isPlain = true) :
    ((interpreter (depth + 1)).statementSegment path
        (.ifThen condition thenBranch elseBranch)).Follows
      ((interpreter depth).execIf path condition thenBranch elseBranch)
      ((interpreter depth).execIf path condition thenBranch elseBranch) := by
  intro alone task starts result left ended
  simp only [Stmt.isPlain, Bool.and_eq_true] at plain
  rw [if_tests path starts.outside.tidy starts.cleanAlone, Act.bind_apply] at ended
  rw [if_tests path starts.inTask.tidy starts.cleanTask, Act.bind_apply]
  have looked := Interpreter.evalCondition_looks (interpreter_looks depth) plain.1.1 alone task
    starts.beside.lookups starts.beside.structs
  generalize (interpreter depth).evalCondition condition alone = tested at looked ended
  generalize (interpreter depth).evalCondition condition task = tested' at looked
  cases looked with
  | halted => cases result <;> cases ended
  | raised cause =>
      have alike := Act.ActsAlike.same starts.outside starts.beside (.error (.fault cause)) nofun nofun
      exact starts.settles alike ended
  | done truth =>
      cases truth with
      | true =>
          refine enters_list settling path plain.1.2 ?_ starts ended
          intro resumed _ marked _
          exact Interpreter.execIf_eq_then marked
      | false =>
          refine enters_list settling path plain.2 ?_ starts ended
          intro resumed tidy marked between
          exact if_resumes_else path tidy marked between

theorem block_follows {body : List Stmt} (plain : (Stmt.block body).isPlain = true) :
    ((interpreter (depth + 1)).statementSegment path (.block body)).Follows
      ((interpreter depth).execBlock (.body :: path) body)
      ((interpreter depth).execBlock (.body :: path) body) := by
  intro alone task starts result left ended
  exact enters_list settling path plain (fun _ _ _ _ => rfl) starts ended

theorem whileLoop_follows {condition : Expr} {body : List Stmt}
    (plain : (Stmt.whileLoop condition body).isPlain = true) :
    ((interpreter (depth + 1)).statementSegment path (.whileLoop condition body)).Follows
      ((interpreter depth).execLoop path (some condition) none body)
      ((interpreter depth).execLoop path (some condition) none body) := by
  intro alone task starts result left ended
  simp only [Stmt.isPlain, Bool.and_eq_true] at plain
  have inner := @Interpreter.execLoop_follows (interpreter depth) path (some condition) none body
    settling (interpreter_looks depth) plain.1 plain.2 .pure
  obtain ⟨calm, settles⟩ := inner alone task (starts.narrow fun _ => Positions.under_of_within)
    result left ended
  refine ⟨calm, settles.pass (fun _ => Positions.under_of_within) (fun _ _ => trivial) ?_ False.elim
    starts.inTask fun mark inside _ => starts.cleanTask mark inside⟩
  intro left resumed _ _ resumes
  exact exec_resumed path resumes

omit settling in
theorem execPart_alike (part : Option Stmt) (simple : part.all Stmt.isSimple = true) :
    ((interpreter depth).execPart path part).ActsAlike := by
  cases part with
  | none => exact .pure
  | some statement =>
      refine .faulting ?_
      cases depth with
      | zero => exact fun _ _ _ _ _ => .halted _ _
      | succ depth =>
          intro alone task outside inTask beside
          rw [interpreter_exec outside.budget, interpreter_exec inTask.budget]
          have direct : statement.isDirect = true := by
            cases statement <;> first | exact simple | cases simple
          exact (interpreter_looks depth).perform path direct alone task outside inTask beside

omit settling in
theorem yield_alone {alone : Session} (outside : alone.executor.currentTask = none)
    (queue : alone.scheduler.queue.ids = []) :
    (interpreter depth).perform path .yield alone = .done () alone := by
  rw [Interpreter.perform, Act.executor_bind, if_neg (by simp [outside])]
  exact Act.bind_of_done ((interpreter depth).cycle_empty queue)

omit settling in
theorem yield_follows :
    ((interpreter (depth + 1)).statementSegment path .yield).Follows
      ((interpreter depth).perform path .yield) ((interpreter depth).perform path .yield) := by
  intro alone task starts result left ended
  have passes : (interpreter depth).perform path .yield alone = .of alone (.ok ()) :=
    yield_alone path starts.outside.currentTask starts.outside.queue
  have suspends : (interpreter depth).perform path .yield task = .raised (.suspend false) task := by
    rw [Interpreter.perform, Act.executor_bind, if_pos starts.inTask.currentTask]
    rfl
  rw [passes] at ended
  obtain ⟨rfl, rfl⟩ := Outcome.of_inj ended
  rw [suspends]
  refine ⟨⟨starts.outside, rfl, fun _ => rfl, nofun, nofun⟩, ?_⟩
  refine .ended (.yielded trivial task) starts.beside ?_ starts.cleanTask
  exact ⟨rfl, rfl, starts.inTask.budget, starts.inTask.tidy, fun _ _ => rfl⟩

omit settling in
theorem for_encloses (init : Option Stmt) (condition : Option Expr) (update : Option Stmt)
    (body : List Stmt) :
    ((interpreter (depth + 1)).statementSegment path
        (.forLoop init condition update body)).Encloses
      ((interpreter depth).loopSegment path condition update body)
      (fun (_ : Unit) => Interpreter.forEnding (.of (.body :: path) body) init) ()
      (fun positions => positions) (Interpreter.InLoop path body) := by
  refine ⟨fun _ => Positions.under_of_within, fun _ _ _ => rfl, fun _ _ _ => rfl,
    fun _ tidy => tidy, fun _ _ => rfl, ?_, fun _ _ _ => trivial, ?_⟩
  · intro first second inLoop same
    exact inLoop.stable fun mark _ away => same mark away
  · intro left resumed inLoop _ resumes
    have still : Interpreter.InLoop path body resumed.executor.positions :=
      inLoop.stable fun mark under _ => resumes.inside mark under
    refine ⟨still, ?_⟩
    rw [exec_resumed path resumes]
    exact Interpreter.execFor_entered still.entered

section

variable {init : Option Stmt} {condition : Option Expr} {update : Option Stmt} {body : List Stmt}
  {alone task : Session}
  (starts : ((interpreter (depth + 1)).statementSegment path
    (.forLoop init condition update body)).Starts alone task)

include starts

omit settling in
theorem loop_starts :
    ((interpreter depth).loopSegment path condition update body).Starts
      (alone.positioned (Positions.enterLoop (.of (.body :: path) body)))
      (task.positioned (Positions.enterLoop (.of (.body :: path) body))) := by
  have clean {session : Session}
      (before : ∀ mark, Positions.Under path mark → session.reads mark = none) :
      ((interpreter depth).loopSegment path condition update body).Clean
        (session.positioned (Positions.enterLoop (.of (.body :: path) body))) := by
    intro mark within
    refine ((Positions.reads_enterLoop _ _ mark).trans (if_neg ?_)).trans
      (before mark (Positions.under_of_within within))
    rintro rfl
    exact (Positions.entered_body path body).2 within
  exact ⟨{ starts.outside with tidy := starts.outside.tidy.enterLoop _ },
    { starts.inTask with tidy := starts.inTask.tidy.enterLoop _ },
    ⟨starts.beside.scopes, starts.beside.output, starts.beside.structs⟩,
    clean starts.cleanAlone, clean starts.cleanTask⟩

omit settling in
theorem loop_entered :
    ((interpreter (depth + 1)).statementSegment path
      (.forLoop init condition update body)).Runs task
        (task.positioned (Positions.enterLoop (.of (.body :: path) body))) := by
  refine ⟨rfl, rfl, starts.inTask.budget, starts.inTask.tidy.enterLoop _, ?_⟩
  intro mark away
  refine (Positions.reads_enterLoop _ _ mark).trans (if_neg ?_)
  rintro rfl
  exact away (Positions.entered_body path body).1

omit settling in
theorem loop_leaves_calm {middle : Session} {ending : Except Signal Unit}
    (calm : (alone.positioned (Positions.enterLoop (.of (.body :: path) body))).Calm ending middle) :
    alone.Calm ending (Interpreter.leftLoop (.of (.body :: path) body) init middle) := by
  refine ⟨?_, calm.structs, ?_, calm.goesOn, calm.returned⟩
  · exact ⟨calm.alone.currentTask, calm.alone.queue, calm.alone.budget,
      calm.alone.tidy.exitLoop _, Interpreter.futureless_leftLoop calm.alone.futureless⟩
  · intro mark
    refine (Interpreter.reads_leftLoop calm.alone.tidy mark).trans ?_
    by_cases same : mark = .entered (.of (.body :: path) body)
    · rw [if_pos same, same]
      exact (starts.cleanAlone _ (Positions.entered_body path body).1).symm
    · rw [if_neg same]
      exact (calm.reads mark).trans ((Positions.reads_enterLoop _ _ mark).trans (if_neg same))

omit settling in
theorem loop_leaves_settled {middle : Session} {ending : Except Signal Unit}
    (goesOn : ∀ fromLoop, ending ≠ .error (.suspend fromLoop)) {outcome : Outcome Unit}
    (settles : ((interpreter depth).loopSegment path condition update body).Settles ending middle
      (task.positioned (Positions.enterLoop (.of (.body :: path) body))) outcome) :
    ((interpreter (depth + 1)).statementSegment path
        (.forLoop init condition update body)).Settles ending
      (Interpreter.leftLoop (.of (.body :: path) body) init middle) task
      (Interpreter.forEnding (.of (.body :: path) body) init outcome) := by
  have own := (Positions.entered_body path body).1
  have encloses := @for_encloses depth path init condition update body
  have before := loop_entered path starts
  refine Segment.Settles.prepend before (settles.enclose encloses ?_ (before.inTask starts.inTask)
    (Interpreter.InLoop.enter starts.cleanTask) ())
  intro _ start after outcome _ inLoop completes beside runs clean
  have ends : Interpreter.forEnding (.of (.body :: path) body) init outcome =
      .of (Interpreter.leftLoop (.of (.body :: path) body) init after) ending := by
    cases completes with
    | done => exact Interpreter.forEnding_of goesOn after
    | yielded impossible => exact impossible.elim
    | broken _ => exact Interpreter.forEnding_of goesOn after
  have leaves (mark : Positions.Mark) :=
    @Interpreter.reads_leftLoop path body init after runs.tidy mark
  rw [ends]
  refine .ended (.of _ goesOn _) (Interpreter.beside_leftLoop beside)
    ((runs.widen encloses.within).trans ?_) ?_
  · refine ⟨rfl, rfl, runs.budget, runs.tidy.exitLoop _, ?_⟩
    intro mark away
    refine (leaves mark).trans (if_neg ?_)
    rintro rfl
    exact away own
  · intro mark under
    refine (leaves mark).trans ?_
    by_cases same : mark = .entered (.of (.body :: path) body)
    · rw [if_pos same]
    · rw [if_neg same]
      by_cases within : Positions.Within (.body :: path) body mark
      · exact clean mark within
      · exact (runs.outside mark within).trans (inLoop.2 mark under within same)

theorem forLoop_settles (tests : condition.all Expr.isPlain = true)
    (updating : update.all Stmt.isSimple = true) (plain : arePlain body = true) {left : Session}
    {result : Except Signal Unit}
    (ended : Interpreter.forEnding (.of (.body :: path) body) init
      ((interpreter depth).execLoop path condition update body
        (alone.positioned (Positions.enterLoop (.of (.body :: path) body)))) = .of left result) :
    alone.Calm result left ∧
      ((interpreter (depth + 1)).statementSegment path
          (.forLoop init condition update body)).Settles result left task
        (Interpreter.forEnding (.of (.body :: path) body) init
          ((interpreter depth).execLoop path condition update body
            (task.positioned (Positions.enterLoop (.of (.body :: path) body))))) := by
  have inner := Interpreter.execLoop_follows settling (interpreter_looks depth) tests plain
    (execPart_alike (.update :: path) update updating) _ _ (loop_starts path starts)
  rcases ((interpreter depth).execLoop path condition update body
      (alone.positioned (Positions.enterLoop (.of (.body :: path) body)))).of_or_halted with
    ⟨ending, middle, run⟩ | ⟨moment, run⟩
  · obtain ⟨calm, settles⟩ := inner ending middle run
    rw [run, Interpreter.forEnding_of calm.goesOn] at ended
    obtain ⟨rfl, rfl⟩ := Outcome.of_inj ended
    exact ⟨loop_leaves_calm path starts calm, loop_leaves_settled path starts calm.goesOn settles⟩
  · rw [run] at ended
    cases result <;> cases ended

end

omit settling in
theorem for_unentered {init : Option Stmt} {condition : Option Expr} {update : Option Stmt}
    {body : List Stmt} {session : Session}
    (clean : ((interpreter (depth + 1)).statementSegment path
      (.forLoop init condition update body)).Clean session) :
    session.executor.positions.loopEntered (.of (.body :: path) body) = false := by
  have unmarked : (if session.executor.positions.loopEntered (.of (.body :: path) body) then
      some 0 else none) = none := clean _ (Positions.entered_body path body).1
  cases entered : session.executor.positions.loopEntered (.of (.body :: path) body) with
  | false => rfl
  | true =>
      rw [entered] at unmarked
      cases unmarked

theorem forLoop_follows {init : Option Stmt} {condition : Option Expr} {update : Option Stmt}
    {body : List Stmt} (plain : (Stmt.forLoop init condition update body).isPlain = true) :
    ((interpreter (depth + 1)).statementSegment path
        (.forLoop init condition update body)).Follows
      ((interpreter depth).execFor path init condition update body)
      ((interpreter depth).execFor path init condition update body) := by
  intro alone task starts result left ended
  simp only [Stmt.isPlain, Bool.and_eq_true] at plain
  obtain ⟨⟨⟨starting, tests⟩, updating⟩, inside⟩ := plain
  rw [Interpreter.execFor_fresh (for_unentered path starts.cleanAlone)] at ended
  rw [Interpreter.execFor_fresh (for_unentered path starts.cleanTask)]
  have alike := @execPart_alike depth (.init :: path) init starting alone task starts.outside
    starts.inTask starts.beside
  generalize (interpreter depth).execPart (.init :: path) init alone = outcome at alike ended
  generalize (interpreter depth).execPart (.init :: path) init task = outcome' at alike
  cases alike with
  | halted => cases result <;> cases ended
  | @ended other goesOn returned scopes futureless output =>
      cases other with
      | error signal =>
          exact starts.settles (.ended (.error signal) goesOn returned futureless output) ended
      | ok value =>
          have calm := starts.outside.calm_showing goesOn returned futureless output
          have entered : ((interpreter (depth + 1)).statementSegment path
              (.forLoop init condition update body)).Starts (alone.showing scopes output)
              (task.showing scopes output) :=
            ⟨calm.alone, starts.inTask.showing scopes output, ⟨rfl, rfl, starts.beside.structs⟩,
              starts.cleanAlone, starts.cleanTask⟩
          obtain ⟨rest, settles⟩ := forLoop_settles settling path entered tests updating inside ended
          exact ⟨calm.trans rest, settles.prepend (.showing starts.inTask scopes output)⟩

/-! ### All statements -/

theorem perform_follows {statement : Stmt} (plain : statement.isPlain = true) :
    ((interpreter (depth + 1)).statementSegment path statement).Follows
      ((interpreter depth).perform path statement)
      ((interpreter depth).perform path statement) := by
  have direct (alike : statement.isDirect = true) :
      ((interpreter (depth + 1)).statementSegment path statement).Follows
        ((interpreter depth).perform path statement)
        ((interpreter depth).perform path statement) :=
    Segment.follows_of_alike ((interpreter_looks depth).perform path alike)
  cases statement with
  | letVar name value => exact direct plain
  | assign target value => exact direct plain
  | expression value => exact direct plain
  | print value => exact direct plain
  | returning value => exact direct plain
  | breakLoop => exact direct rfl
  | continueLoop => exact direct rfl
  | yield => exact yield_follows path
  | ifThen condition thenBranch elseBranch => exact execIf_follows settling path plain
  | whileLoop condition body => exact whileLoop_follows settling path plain
  | forLoop init condition update body => exact forLoop_follows settling path plain
  | block body => exact block_follows settling path plain

end

/-- In a task, plain statements settle on what they come to outside of any. -/
theorem interpreter_settling (depth : Nat) : (interpreter depth).Settling := by
  -- On the depth alone: how often a statement gives way in the task is part of what settling says.
  induction depth with
  | zero =>
      intro path statement _ alone task _ result left ended
      cases result <;> cases ended
  | succ depth ih =>
      intro path statement plain alone task starts result left ended
      rw [interpreter_exec starts.outside.budget] at ended
      rw [interpreter_exec starts.inTask.budget]
      exact perform_follows ih path plain alone task starts result left ended

end CooperativeTasks
