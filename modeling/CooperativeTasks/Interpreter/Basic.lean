import CooperativeTasks.Session

set_option autoImplicit false

/-! Interpreters by depth.

Evaluating an expression and executing a statement go back and forth without a bound that
could be read off the program: a call runs a body, an await drives the scheduler, which runs
statements of other tasks. An interpreter of a given depth does what it does by means of an
interpreter one less deep. The modules beside this one say how, for any interpreter to fall
back on; `interpreter` then ties them together. -/

namespace CooperativeTasks

structure Interpreter where
  eval : Expr → Act Value
  /-- Executes the statement at the given path. -/
  exec : Path → Stmt → Act Unit
  /-- How many turns a loop may take. -/
  turns : Nat

namespace Interpreter

/-- Executes a list from an index on. On a suspension the list notes where to go on, at the
same statement if that was interrupted half-way and at the next after an explicit yield, and
suspends what encloses it so that it will be entered again. -/
def execFrom (interpreter : Interpreter) (key : ListKey) (path : Path) :
    Nat → List Stmt → Act Unit
  | _, [] => Act.updatePositions (Positions.clear key)
  | index, statement :: rest => do
      match ← Act.attempt (interpreter.exec (.item index :: path) statement) with
      | .ok () => interpreter.execFrom key path (index + 1) rest
      | .error (.suspend fromLoop) =>
          Act.updatePositions (Positions.set key (if fromLoop then index else index + 1))
          Act.raise (.suspend true)
      | .error signal =>
          Act.updatePositions (Positions.clear key)
          Act.raise signal

def execBlock (interpreter : Interpreter) (path : Path) (statements : List Stmt) : Act Unit := do
  let key := ListKey.of path statements
  let start := ((← Act.executor).positions.get? key).getD 0
  interpreter.execFrom key path start (statements.drop start)

end Interpreter

end CooperativeTasks
