import CooperativeTasks.Interpreter.Statements

set_option autoImplicit false

/-! Running whole programs. -/

namespace CooperativeTasks

namespace Executor

def defineFunction (function : FunctionDecl) (executor : Executor) : Executor :=
  { executor with
    functions := Bindings.insert function.qualifiedName function executor.functions }

def defineStruct (declaration : StructDecl) (executor : Executor) : Executor :=
  { executor with structs := Bindings.insert declaration.name declaration executor.structs }

def load (program : Program) (executor : Executor) : Executor :=
  let withStructs := program.structs.foldl (fun known decl => known.defineStruct decl) executor
  program.functions.foldl (fun known function => known.defineFunction function) withStructs

def global? (name : String) (executor : Executor) : Option Value :=
  executor.scopes.global.get? name

def setGlobal (name : String) (value : Value) (executor : Executor) : Executor :=
  { executor with scopes := executor.scopes.modifyGlobal (Scope.define name value) }

def takeOutput (executor : Executor) : List String × Executor :=
  (executor.output.toList, { executor with output := #[] })

end Executor

def Session.start (settings : Settings) (tick : Nat) : Session where
  executor := { settings := settings.interpreter }
  scheduler := { settings := settings.scheduler }
  clock := { tick }

namespace Act

def load (program : Program) : Act Unit := do
  updateExecutor (Executor.load program)
  let loaded ← executor
  note (.programLoaded loaded.functions.length loaded.structs.length)

end Act

namespace Interpreter

/-- Executes main statements, the first of which has the given index. A return ends them; after
each of the others a queued task gets a turn, if the settings say so. -/
def runMain (interpreter : Interpreter) : Nat → List Stmt → Act Unit
  | _, [] => return
  | index, statement :: rest => do
      match ← Act.attempt (interpreter.exec [.item index] statement) with
      | .ok () => do
          if (← Act.executor).settings.backgroundCycles then
            if (← Act.scheduler).hasQueued then
              interpreter.runOneCycle
          interpreter.runMain (index + 1) rest
      | .error (.returning _) => return
      | .error signal => Act.fail signal.toFault

/-- Loads a program, executes its main statements and drives all tasks to their end. -/
def runProgram (interpreter : Interpreter) (program : Program) : Act Unit := do
  Act.load program
  Act.note (.mainStarted program.main.length)
  interpreter.runMain 0 program.main
  interpreter.run
  Act.note (.programFinished (← Act.scheduler).tasks.length)

end Interpreter

/-- A depth that no run comes to in practice. -/
def ampleDepth : Nat := Nat.pow 2 60

def Program.run (program : Program) (settings : Settings) (tick : Nat) : Outcome Unit :=
  (interpreter ampleDepth).runProgram program (Session.start settings tick)

end CooperativeTasks
