import CooperativeTasks.Value

set_option autoImplicit false

/-! Programs as trees.

A program declares structs and functions and has a list of main statements. An asynchronous
function becomes a task when it is called; a function with an owner is a method. -/

namespace CooperativeTasks

inductive BinaryOperator where
  | add
  | sub
  | mul
  | div
  | mod
  | eq
  | ne
  | lt
  | le
  | gt
  | ge
  | and
  | or
  deriving DecidableEq, Repr

def BinaryOperator.name : BinaryOperator → String
  | .add => "Add"
  | .sub => "Sub"
  | .mul => "Mul"
  | .div => "Div"
  | .mod => "Mod"
  | .eq => "Eq"
  | .ne => "Ne"
  | .lt => "Lt"
  | .le => "Le"
  | .gt => "Gt"
  | .ge => "Ge"
  | .and => "And"
  | .or => "Or"

def BinaryOperator.all : List BinaryOperator :=
  [.add, .sub, .mul, .div, .mod, .eq, .ne, .lt, .le, .gt, .ge, .and, .or]

inductive UnaryOperator where
  | neg
  | not
  deriving DecidableEq, Repr

def UnaryOperator.name : UnaryOperator → String
  | .neg => "Neg"
  | .not => "Not"

inductive Expr where
  | lit (value : Value)
  /-- A variable, or a place inside one when the name has dots. -/
  | var (name : String)
  | field (base : Expr) (name : String)
  | binary (operator : BinaryOperator) (left right : Expr)
  | unary (operator : UnaryOperator) (operand : Expr)
  | structLit (typeName : String) (fields : List (String × Expr))
  | call (name : String) (args : List Expr)
  | methodCall (receiver method : String) (args : List Expr)
  | await (future : Expr)
  /-- A future that is ready after so many milliseconds. -/
  | sleep (millis : Expr)
  /-- The future itself, with a deadline set on its task. -/
  | timeout (future millis : Expr)
  deriving Inhabited

inductive Stmt where
  | letVar (name : String) (value : Expr)
  | assign (target : String) (value : Expr)
  | expression (value : Expr)
  | print (value : Expr)
  | returning (value : Option Expr)
  | yield
  | ifThen (condition : Expr) (thenBranch elseBranch : List Stmt)
  | whileLoop (condition : Expr) (body : List Stmt)
  | forLoop (init : Option Stmt) (condition : Option Expr) (update : Option Stmt) (body : List Stmt)
  | block (body : List Stmt)
  | breakLoop
  | continueLoop
  deriving Inhabited

structure StructDecl where
  name : String
  fields : List String

structure FunctionDecl where
  name : String
  params : List String
  body : List Stmt
  isAsync : Bool
  /-- The struct type of which this is a method. -/
  owner : Option String

structure Program where
  structs : List StructDecl
  functions : List FunctionDecl
  main : List Stmt

/-- The name under which a function is called: methods carry their owner's. -/
def FunctionDecl.qualifiedName (function : FunctionDecl) : String :=
  match function.owner with
  | some owner => owner ++ "." ++ function.name
  | none => function.name

/-! ### Explicit suspension -/

mutual

def Stmt.containsYield : Stmt → Bool
  | .yield => true
  | .ifThen _ thenBranch elseBranch => anyContainsYield thenBranch || anyContainsYield elseBranch
  | .whileLoop _ body => anyContainsYield body
  | .forLoop init _ update body =>
      partContainsYield init || partContainsYield update || anyContainsYield body
  | .block body => anyContainsYield body
  | .letVar _ _ => false
  | .assign _ _ => false
  | .expression _ => false
  | .print _ => false
  | .returning _ => false
  | .breakLoop => false
  | .continueLoop => false

def anyContainsYield : List Stmt → Bool
  | [] => false
  | statement :: rest => statement.containsYield || anyContainsYield rest

def partContainsYield : Option Stmt → Bool
  | none => false
  | some statement => statement.containsYield

end

def FunctionDecl.hasYield (function : FunctionDecl) : Bool := anyContainsYield function.body

end CooperativeTasks
