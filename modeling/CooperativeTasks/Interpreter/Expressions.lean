import CooperativeTasks.Interpreter.Calls
import CooperativeTasks.Interpreter.Operators
import CooperativeTasks.Scheduler.Drive
import CooperativeTasks.Scheduler.Registration

set_option autoImplicit false

/-! Evaluating expressions.

Calling an asynchronous function registers a task and gives its future. Awaiting a future
drives the scheduler from inside the running statement until the future's task is
finished. -/

namespace CooperativeTasks

/-- The struct that a literal makes. A declared type has exactly its declared fields, in their
order, void unless they are given; an undeclared one has the fields of the literal. -/
def structOf (declared : Option StructDecl) (typeName : String) (given : List (String × Value)) :
    Except Fault Value :=
  match declared with
  | none => .ok (.struct typeName (Bindings.insertAll given []))
  | some decl =>
      match given.find? fun (name, _) => !decl.fields.contains name with
      | some (name, _) => .error (.fieldNotFound (typeName ++ "." ++ name))
      | none =>
          let entries := decl.fields.map fun name => (name, (Bindings.get? name given).getD .void)
          .ok (.struct typeName (Bindings.insertAll entries []))

/-- The field of a value that is not known to be a struct. -/
def Value.fieldOf (name : String) (value : Value) : Except Fault Value :=
  match value with
  | .struct typeName fields =>
      match Bindings.get? name fields with
      | some field => .ok field
      | none => .error (.fieldNotFound (typeName ++ "." ++ name))
  | _ => .error (.typeError ("cannot read field `" ++ name ++ "` of " ++ value.typeName))

/-- Milliseconds; a negative duration is none at all. -/
def Value.millis (value : Value) : Except Fault Nat :=
  match value.toInt? with
  | some number => .ok number.toInt.toNat
  | none => .error (.typeError ("duration must be an integer, found " ++ value.typeName))

namespace Interpreter

variable (interpreter : Interpreter)

def evalAll : List Expr → Act (List Value)
  | [] => return []
  | expr :: rest => do
      let value ← interpreter.eval expr
      return value :: (← evalAll rest)

def evalFields : List (String × Expr) → Act (List (String × Value))
  | [] => return []
  | (name, expr) :: rest => do
      let value ← interpreter.eval expr
      return (name, value) :: (← evalFields rest)

def evalMillis (expr : Expr) : Act Nat := do
  Act.ofExcept (← interpreter.eval expr).millis

def evalBinary (operator : BinaryOperator) (left right : Expr) : Act Value := do
  let leftValue ← interpreter.eval left
  match operator with
  | .and => do
      if ← Act.ofExcept leftValue.truth then
        return .bool (← Act.ofExcept (← interpreter.eval right).truth)
      else
        return .bool false
  | .or => do
      if ← Act.ofExcept leftValue.truth then
        return .bool true
      else
        return .bool (← Act.ofExcept (← interpreter.eval right).truth)
  | _ => do
      let rightValue ← interpreter.eval right
      Act.ofExcept (operator.apply leftValue rightValue)

def functionNamed (name : String) : Act FunctionDecl := do
  match Bindings.get? name (← Act.executor).functions with
  | some function => return function
  | none => Act.fail (.undefinedFunction name)

def callFunction (name : String) (args : List Expr) : Act Value := do
  let function ← functionNamed name
  let values ← interpreter.evalAll args
  Act.ofExcept (checkArity function values)
  if function.isAsync then
    Act.futureValue (← Act.spawn function values)
  else
    let (value, _) ← interpreter.callSync function values none
    return value

def callMethod (receiver method : String) (args : List Expr) : Act Value := do
  let target ← Act.readPlace receiver
  match target with
  | .struct typeName _ => do
      let function ← functionNamed (typeName ++ "." ++ method)
      let values ← interpreter.evalAll args
      Act.ofExcept (checkArity function values)
      if function.isAsync then
        let site := (← Act.executor).site? receiver
        let id ← Act.register ((Task.ofFunction function values).withReceiver target site)
        Act.futureValue id
      else
        let (value, updated) ← interpreter.callSync function values (some target)
        match updated with
        | none => pure ()
        | some instanceValue => Act.writeInstance receiver instanceValue
        return value
  | _ => Act.fail (.typeError ("cannot call `" ++ method ++ "` on " ++ target.typeName))

/-- Drives the scheduler until the task is finished, marking the running task as waiting for
the time being. -/
def awaitTask (id : TaskId) : Act Unit := do
  let current := (← Act.executor).currentTask
  Act.note (.awaiting id current)
  match current with
  | none => pure ()
  | some waiter => Act.updateScheduler (Scheduler.waitOn waiter id)
  let outcome ← Act.attempt (interpreter.runUntilComplete id)
  match current with
  | none => pure ()
  | some waiter => Act.updateScheduler (Scheduler.clearWait waiter)
  Act.note (.awaitEnded id current)
  Act.ofAttempt outcome

def slotOf (id : TaskId) : Act Value := do
  match (← Act.scheduler).task? id with
  | none => Act.fail (.unknownTask id)
  | some task =>
      if task.future.isReady then
        return task.future.value
      else
        Act.fail (.awaitStalled id)

/-- Waits for a future. One that names no task has to be ready. -/
def awaitFuture (future : Value) : Act Value := do
  match Future.taskOf? future with
  | none =>
      match Future.ofValue? future with
      | some { value, isReady := true } => return value
      | _ => Act.fail (.notAwaitable future.typeName)
  | some id => do
      match (← Act.scheduler).task? id with
      | none => Act.fail (.unknownTask id)
      | some task =>
          if !task.isFinished then interpreter.awaitTask id
          slotOf id

def evalTimeout (future millis : Expr) : Act Value := do
  let target ← interpreter.eval future
  match Future.taskOf? target with
  | none => Act.fail (.notAwaitable target.typeName)
  | some id => do
      if ((← Act.scheduler).task? id).isNone then
        Act.fail (.unknownTask id)
      else
        let duration ← interpreter.evalMillis millis
        Act.setTimeout id duration
        return target

def evalExpr : Expr → Act Value
  | .lit value => return value
  | .var name => Act.readPlace name
  | .field base name => do
      Act.ofExcept ((← interpreter.eval base).fieldOf name)
  | .binary operator left right => interpreter.evalBinary operator left right
  | .unary operator operand => do
      Act.ofExcept (operator.apply (← interpreter.eval operand))
  | .structLit typeName fields => do
      let given ← interpreter.evalFields fields
      Act.ofExcept (structOf (Bindings.get? typeName (← Act.executor).structs) typeName given)
  | .call name args => interpreter.callFunction name args
  | .methodCall receiver method args => interpreter.callMethod receiver method args
  | .await future => do
      interpreter.awaitFuture (← interpreter.eval future)
  | .sleep millis => do
      let duration ← interpreter.evalMillis millis
      Act.futureValue (← Act.spawnTimer duration)
  | .timeout future millis => interpreter.evalTimeout future millis

end Interpreter

end CooperativeTasks
