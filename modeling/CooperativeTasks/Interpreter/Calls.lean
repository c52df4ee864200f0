import CooperativeTasks.Interpreter.Basic

set_option autoImplicit false

/-! Synchronous calls.

A body runs to its end in a scope of its own, outside of any task: loops do not suspend, a
yield lets other tasks run, and positions start empty. All of that is put back whichever way
the body ends. -/

namespace CooperativeTasks

/-- The scope in which a synchronous call runs: parameters, then the fields of the instance
and the instance. -/
def callScope (function : FunctionDecl) (args : List Value) (receiver : Option Value) : Scope :=
  let instanceEntries :=
    match receiver with
    | none => []
    | some value => Task.selfEntries value ++ [(selfName, value)]
  ({ } : Scope).defineAll (function.params.zip args ++ instanceEntries)

/-- The instance as a scope has it, with the fields beside it written into it. -/
def Scope.instanceValue (scope : Scope) : Value :=
  ((scope.get? selfName).getD .void).mergeMembers (selfMembers scope.bindings)

def checkArity (function : FunctionDecl) (args : List Value) : Except Fault Unit :=
  if function.params.length = args.length then .ok ()
  else .error (.arityMismatch function.qualifiedName function.params.length args.length)

namespace Executor

def enterCall (scope : Scope) (executor : Executor) : Executor :=
  { executor with
    scopes := executor.scopes.push scope
    currentTask := none
    autoYield := false
    positions := {}
    callDepth := executor.callDepth + 1 }

def leaveCall (before executor : Executor) : Executor :=
  { executor with
    scopes := executor.scopes.truncate before.scopes.depth
    currentTask := before.currentTask
    autoYield := before.autoYield
    positions := before.positions
    callDepth := executor.callDepth - 1 }

end Executor

namespace Interpreter

/-- Runs a function's body. Gives the returned value and, for a method, the instance as the
body left it. -/
def callSync (interpreter : Interpreter) (function : FunctionDecl) (args : List Value)
    (receiver : Option Value) : Act (Value × Option Value) := do
  let before ← Act.executor
  let limit := before.settings.maxCallDepth
  if limit ≤ before.callDepth then
    Act.fail (.callDepthExceeded limit)
  else
    Act.note (.called function.qualifiedName before.callDepth)
    Act.updateExecutor (Executor.enterCall (callScope function args receiver))
    let outcome ← Act.attempt (interpreter.execBlock [] function.body)
    let left ← Act.executor
    let updated := receiver.map fun _ => left.scopes.current.instanceValue
    Act.updateExecutor (Executor.leaveCall before)
    match outcome with
    | .ok () => return (.void, updated)
    | .error (.returning value) => return (value, updated)
    | .error signal => Act.fail signal.toFault

end Interpreter

namespace Act

def readPlace (name : String) : Act Value := do
  ofExcept ((← executor).scopes.readPlace name)

def writePlace (name : String) (value : Value) : Act Unit := do
  let (scopes, outcome) := (← executor).scopes.writePlace name value
  updateScopes fun _ => scopes
  ofExcept outcome

/-- Writes an instance to the place on which a method was called, and its fields to the
entries beside it that exist. -/
def writeInstance (receiver : String) (updated : Value) : Act Unit := do
  updateScopes fun scopes =>
    (updated.fields?.getD []).foldl
      (fun written (name, value) => written.assignExisting (memberName receiver name) value)
      scopes
  writePlace receiver updated

end Act

end CooperativeTasks
