import CooperativeTasks.Interpreter.Expressions

set_option autoImplicit false

/-! Executing statements. -/

namespace CooperativeTasks

namespace Interpreter

variable (interpreter : Interpreter)

def evalCondition (condition : Expr) : Act Bool := do
  let value ← interpreter.eval condition
  match value.toBool? with
  | some truth => return truth
  | none => Act.fail (.typeError ("condition must be bool, found " ++ value.typeName))

/-- Lets an unfinished task publish its future into a variable that is about to hold it. -/
def bindFutureTo (site : Executor → Option BindingSite) (value : Value) : Act Unit := do
  match Future.taskOf? value with
  | none => pure ()
  | some id =>
      if (← Act.scheduler).isFinished id then
        pure ()
      else
        match site (← Act.executor) with
        | none => pure ()
        | some site => Act.updateScheduler (Scheduler.bindFuture id site)

def printLine (line : String) : Act Unit :=
  Act.updateExecutor fun executor => { executor with output := executor.output.push line }

/-- Ends a finished iteration of a loop. In a task whose loops suspend, the task suspends; in
no task at all, a queued task gets a turn. -/
def endIteration : Act Unit := do
  let executor ← Act.executor
  if executor.currentTask.isSome then
    if executor.autoYield then
      Act.note (.loopSuspended executor.currentTask)
      Act.raise (.suspend true)
  else if (← Act.scheduler).hasQueued then
    interpreter.runOneCycle

/-- A branch that was suspended is resumed without testing the condition again. -/
def execIf (path : Path) (condition : Expr) (thenBranch elseBranch : List Stmt) : Act Unit := do
  let positions := (← Act.executor).positions
  if (positions.get? (.of (.thenBranch :: path) thenBranch)).isSome then
    interpreter.execBlock (.thenBranch :: path) thenBranch
  else if (positions.get? (.of (.elseBranch :: path) elseBranch)).isSome then
    interpreter.execBlock (.elseBranch :: path) elseBranch
  else if ← interpreter.evalCondition condition then
    interpreter.execBlock (.thenBranch :: path) thenBranch
  else
    interpreter.execBlock (.elseBranch :: path) elseBranch

/-- Whether a loop goes on to its body: resuming it, or because its condition holds. -/
def entersBody (path : Path) (condition : Option Expr) (body : List Stmt) : Act Bool := do
  if ((← Act.executor).positions.get? (.of (.body :: path) body)).isSome then
    return true
  else
    match condition with
    | none => return true
    | some expr => interpreter.evalCondition expr

/-- Executes a loop's body; whether the iteration was finished, and not broken off. -/
def execBody (path : Path) (body : List Stmt) : Act Bool := do
  match ← Act.attempt (interpreter.execBlock (.body :: path) body) with
  | .ok () => return true
  | .error .continueLoop => return true
  | .error .breakLoop => return false
  | .error signal => Act.raise signal

/-- Executes a part of a loop's head, in which nothing may be left early. -/
def execPart (path : Path) : Option Stmt → Act Unit
  | none => pure ()
  | some statement => Act.faulting (interpreter.exec path statement)

/-- One iteration of a loop; nothing when the loop has ended. -/
def iteration (path : Path) (condition : Option Expr) (update : Option Stmt) (body : List Stmt) :
    Unit → Act (Option Unit) := fun _ => do
  if ← interpreter.entersBody path condition body then
    if ← interpreter.execBody path body then
      interpreter.execPart (.update :: path) update
      interpreter.endIteration
      return some ()
    else
      return none
  else
    return none

def execLoop (path : Path) (condition : Option Expr) (update : Option Stmt) (body : List Stmt) :
    Act Unit :=
  Act.iterate interpreter.turns (interpreter.iteration path condition update body) ()

def loopVariable? : Option Stmt → Option String
  | some (.letVar name _) => some name
  | _ => none

/-- The initialiser runs when the loop is entered and not when it is resumed. A loop that is
not suspended is left, and its variable with it. -/
def execFor (path : Path) (init : Option Stmt) (condition : Option Expr) (update : Option Stmt)
    (body : List Stmt) : Act Unit := do
  let key := ListKey.of (.body :: path) body
  if !(← Act.executor).positions.loopEntered key then
    interpreter.execPart (.init :: path) init
    Act.updatePositions (Positions.enterLoop key)
  match ← Act.attempt (interpreter.execLoop path condition update body) with
  | .error (.suspend fromLoop) => Act.raise (.suspend fromLoop)
  | outcome => do
      Act.updatePositions (Positions.exitLoop key)
      match loopVariable? init with
      | none => pure ()
      | some name => Act.updateScopes (ScopeStack.modifyCurrent (Scope.remove name))
      Act.ofAttempt outcome

def perform (path : Path) : Stmt → Act Unit
  | .letVar name value => do
      let value ← interpreter.eval value
      bindFutureTo (Executor.localSite? name) value
      Act.updateScopes (ScopeStack.define name value)
  | .assign target value => do
      let value ← interpreter.eval value
      bindFutureTo (Executor.site? target) value
      Act.writePlace target value
  | .expression value => do
      let _ ← interpreter.eval value
  | .print value => do
      printLine (← interpreter.eval value).text
  | .returning none => Act.raise (.returning .void)
  | .returning (some value) => do
      Act.raise (.returning (← interpreter.eval value))
  | .yield => do
      if (← Act.executor).currentTask.isSome then
        Act.raise (.suspend false)
      else
        interpreter.runOneCycle
  | .ifThen condition thenBranch elseBranch =>
      interpreter.execIf path condition thenBranch elseBranch
  | .whileLoop condition body => interpreter.execLoop path (some condition) none body
  | .forLoop init condition update body => interpreter.execFor path init condition update body
  | .block body => interpreter.execBlock (.body :: path) body
  | .breakLoop => Act.raise .breakLoop
  | .continueLoop => Act.raise .continueLoop

/-- Executes a statement. Its start and its end are moments of the run. -/
def execStmt (path : Path) (statement : Stmt) : Act Unit := do
  Act.moment
  let outcome ← Act.attempt (interpreter.perform path statement)
  Act.moment
  Act.ofAttempt outcome

end Interpreter

/-- The interpreter of a given depth. One of depth zero halts at once. -/
def interpreter : Nat → Interpreter
  | 0 =>
      { eval := fun _ => Act.halt
        exec := fun _ _ => Act.halt
        turns := 0 }
  | depth + 1 =>
      { eval := fun expr => (interpreter depth).evalExpr expr
        exec := fun path statement => (interpreter depth).execStmt path statement
        turns := depth }

end CooperativeTasks
