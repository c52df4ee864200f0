import CooperativeTasks.TaskId

set_option autoImplicit false

/-! The causes for which a running program stops.

The scheduler never handles a fault: it ends the turn in which it was raised and reaches
whoever drove the scheduler. -/

namespace CooperativeTasks

/-- A control statement that is used up by an enclosing construct. -/
inductive Control where
  | yield
  | returning
  | breakLoop
  | continueLoop
  deriving DecidableEq, Repr

def Control.keyword : Control → String
  | .yield => "yield"
  | .returning => "return"
  | .breakLoop => "break"
  | .continueLoop => "continue"

inductive Fault where
  | undefinedVariable (name : String)
  | undefinedFunction (name : String)
  | typeError (description : String)
  | divisionByZero
  | fieldNotFound (name : String)
  | arityMismatch (name : String) (expected got : Nat)
  | callDepthExceeded (limit : Nat)
  | notAwaitable (typeName : String)
  | unknownTask (task : TaskId)
  /-- Nothing was left to run while the awaited task was unfinished. -/
  | awaitStalled (task : TaskId)
  | strayControl (control : Control)
  | invalidState (description : String)
  deriving DecidableEq, Repr

def Fault.message : Fault → String
  | .undefinedVariable name => "Undefined variable: " ++ name
  | .undefinedFunction name => "Undefined function: " ++ name
  | .typeError description => "Type error: " ++ description
  | .divisionByZero => "Division by zero"
  | .fieldNotFound name => "Field not found: " ++ name
  | .arityMismatch name expected got =>
      "Function " ++ name ++ " expects " ++ toString expected ++ " arguments, got " ++ toString got
  | .callDepthExceeded limit => "Call depth exceeded (max " ++ toString limit ++ ")"
  | .notAwaitable typeName => "Value of type " ++ typeName ++ " is not awaitable"
  | .unknownTask task => "Unknown task: " ++ task.text
  | .awaitStalled task =>
      "Await on " ++ task.text ++ " stalled: ready queue drained before it completed"
  | .strayControl control => "`" ++ control.keyword ++ "` escaped its enclosing construct"
  | .invalidState description => "Invalid state: " ++ description

end CooperativeTasks
