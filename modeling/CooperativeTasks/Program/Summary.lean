import CooperativeTasks.Program.Tree

set_option autoImplicit false

/-! A static overview of a program. -/

namespace CooperativeTasks

mutual

/-- The statement itself and those nested in its branches and bodies. The parts in the head
of a loop are not counted. -/
def Stmt.count : Stmt → Nat
  | .ifThen _ thenBranch elseBranch => 1 + countAll thenBranch + countAll elseBranch
  | .whileLoop _ body => 1 + countAll body
  | .forLoop _ _ _ body => 1 + countAll body
  | .block body => 1 + countAll body
  | .letVar _ _ => 1
  | .assign _ _ => 1
  | .expression _ => 1
  | .print _ => 1
  | .returning _ => 1
  | .yield => 1
  | .breakLoop => 1
  | .continueLoop => 1

def countAll : List Stmt → Nat
  | [] => 0
  | statement :: rest => statement.count + countAll rest

end

structure ProgramSummary where
  structs : Nat
  functions : Nat
  asyncFunctions : Nat
  /-- Asynchronous functions without an explicit yield: their loops suspend by themselves. -/
  autoYieldFunctions : Nat
  mainStatements : Nat
  totalStatements : Nat
  deriving DecidableEq, Repr

def Program.summary (program : Program) : ProgramSummary where
  structs := program.structs.length
  functions := program.functions.length
  asyncFunctions := (program.functions.filter FunctionDecl.isAsync).length
  autoYieldFunctions :=
    (program.functions.filter fun function => function.isAsync && !function.hasYield).length
  mainStatements := program.main.length
  totalStatements :=
    program.functions.foldl (fun total function => total + countAll function.body)
      (countAll program.main)

end CooperativeTasks
