import CooperativeTasks.Document.Header
import CooperativeTasks.Program.Validation

set_option autoImplicit false

/-! Programs, statements, expressions and values as documents.

Readers for nested syntax are made by depth: each one reads its parts by means of those one
less deep. A part always takes room, so that `nestingLimit` levels are enough. -/

namespace CooperativeTasks.Document

/-- What a field of a declaration, statement or expression can hold. -/
inductive Part where
  | text (value : String)
  | optionalText (value : Option String)
  | texts (values : List String)
  | flag (value : Bool)
  | values (entries : List (String × Value))
  | expr (value : Expr)
  | optionalExpr (value : Option Expr)
  | exprs (values : List Expr)
  | exprFields (entries : List (String × Expr))
  | binaryOperator (operator : BinaryOperator)
  | unaryOperator (operator : UnaryOperator)
  | optionalStmt (value : Option Stmt)
  | stmts (values : List Stmt)
  | structs (declarations : List StructDecl)
  | functions (declarations : List FunctionDecl)

abbrev Parts := List (String × Part)

namespace Parts

def text? (name : String) (parts : Parts) : Option String :=
  match Bindings.get? name parts with
  | some (.text value) => some value
  | _ => none

def optionalText (name : String) (parts : Parts) : Option String :=
  match Bindings.get? name parts with
  | some (.optionalText value) => value
  | _ => none

def texts (name : String) (parts : Parts) : List String :=
  match Bindings.get? name parts with
  | some (.texts values) => values
  | _ => []

def flag (name : String) (parts : Parts) : Bool :=
  match Bindings.get? name parts with
  | some (.flag value) => value
  | _ => false

def values (name : String) (parts : Parts) : List (String × Value) :=
  match Bindings.get? name parts with
  | some (.values entries) => entries
  | _ => []

def expr? (name : String) (parts : Parts) : Option Expr :=
  match Bindings.get? name parts with
  | some (.expr value) => some value
  | _ => none

def optionalExpr (name : String) (parts : Parts) : Option Expr :=
  match Bindings.get? name parts with
  | some (.optionalExpr value) => value
  | _ => none

def exprs? (name : String) (parts : Parts) : Option (List Expr) :=
  match Bindings.get? name parts with
  | some (.exprs values) => some values
  | _ => none

def exprFields? (name : String) (parts : Parts) : Option (List (String × Expr)) :=
  match Bindings.get? name parts with
  | some (.exprFields entries) => some entries
  | _ => none

def binaryOperator? (name : String) (parts : Parts) : Option BinaryOperator :=
  match Bindings.get? name parts with
  | some (.binaryOperator operator) => some operator
  | _ => none

def unaryOperator? (name : String) (parts : Parts) : Option UnaryOperator :=
  match Bindings.get? name parts with
  | some (.unaryOperator operator) => some operator
  | _ => none

def optionalStmt (name : String) (parts : Parts) : Option Stmt :=
  match Bindings.get? name parts with
  | some (.optionalStmt value) => value
  | _ => none

def stmts? (name : String) (parts : Parts) : Option (List Stmt) :=
  match Bindings.get? name parts with
  | some (.stmts values) => some values
  | _ => none

def structs (name : String) (parts : Parts) : List StructDecl :=
  match Bindings.get? name parts with
  | some (.structs declarations) => declarations
  | _ => []

def functions (name : String) (parts : Parts) : List FunctionDecl :=
  match Bindings.get? name parts with
  | some (.functions declarations) => declarations
  | _ => []

end Parts

/-- Readers for the kinds of syntax that nest. -/
structure Grammar where
  value : Reader Value
  expr : Reader Expr
  stmt : Reader Stmt
  /-- Skips a value of any shape. -/
  skip : Reader Unit

namespace Grammar

open Reader

def part {α : Type} (wrap : α → Part) (reader : Reader α) : Reader Part := do
  return wrap (← reader)

variable (grammar : Grammar)

/-- The parts of a variant with named fields, put together. -/
def record {α : Type} (known : List (String × Reader Part)) (build : Parts → Option α) :
    Reader α := do
  blanks
  ofOption (build (← bareStruct known grammar.skip))

/-! ### Values -/

def structValue : Reader Value := do
  let known :=
    [ ("type_name", part .text text), ("fields", part .values (map grammar.value)) ]
  let parts : Parts ←
    if (← extensions).unwrapVariants then openStruct known grammar.skip
    else struct "StructValue" known grammar.skip
  match parts.text? "type_name" with
  | none => fail
  | some typeName => return .struct typeName (parts.values "fields")

def readValue : Reader Value :=
  variant
    [ ("Void", return .void),
      ("Bool", do return .bool (← holding bool)),
      ("Int", do return .int (← holding int64)),
      ("Float", do return .float (← holding double)),
      ("Str", do return .str (← holding text)),
      ("Struct", holding grammar.structValue) ]

/-! ### Expressions -/

def binaryOperator : Reader BinaryOperator :=
  variant (BinaryOperator.all.map fun operator => (operator.name, return operator))

def unaryOperator : Reader UnaryOperator :=
  variant ([UnaryOperator.neg, .not].map fun operator => (operator.name, return operator))

def binaryExpr : Reader Expr :=
  grammar.record
    [ ("op", part .binaryOperator binaryOperator), ("left", part .expr grammar.expr),
      ("right", part .expr grammar.expr) ]
    fun parts => do
      return .binary (← parts.binaryOperator? "op") (← parts.expr? "left") (← parts.expr? "right")

def unaryExpr : Reader Expr :=
  grammar.record
    [ ("op", part .unaryOperator unaryOperator), ("expr", part .expr grammar.expr) ]
    fun parts => do
      return .unary (← parts.unaryOperator? "op") (← parts.expr? "expr")

def structExpr : Reader Expr :=
  grammar.record
    [ ("type_name", part .text text),
      ("fields", part .exprFields (list (pair text grammar.expr))) ]
    fun parts => do
      return .structLit (← parts.text? "type_name") (← parts.exprFields? "fields")

def callExpr : Reader Expr :=
  grammar.record
    [ ("name", part .text text), ("args", part .exprs (list grammar.expr)) ]
    fun parts => do
      return .call (← parts.text? "name") (← parts.exprs? "args")

def methodCallExpr : Reader Expr :=
  grammar.record
    [ ("receiver", part .text text), ("method", part .text text),
      ("args", part .exprs (list grammar.expr)) ]
    fun parts => do
      return .methodCall (← parts.text? "receiver") (← parts.text? "method") (← parts.exprs? "args")

def timeoutExpr : Reader Expr :=
  grammar.record
    [ ("future", part .expr grammar.expr), ("millis", part .expr grammar.expr) ]
    fun parts => do
      return .timeout (← parts.expr? "future") (← parts.expr? "millis")

def fieldExpr : Reader Expr := do
  blanks
  let (base, name) ← pair grammar.expr text
  return .field base name

def readExpr : Reader Expr :=
  variant
    [ ("Lit", do return .lit (← holding grammar.value)),
      ("Var", do return .var (← holding text)),
      ("Field", grammar.fieldExpr),
      ("BinOp", grammar.binaryExpr),
      ("UnOp", grammar.unaryExpr),
      ("StructLit", grammar.structExpr),
      ("Call", grammar.callExpr),
      ("MethodCall", grammar.methodCallExpr),
      ("Await", do return .await (← holding grammar.expr)),
      ("Sleep", do return .sleep (← holding grammar.expr)),
      ("Timeout", grammar.timeoutExpr) ]

/-! ### Statements -/

def letStmt : Reader Stmt :=
  grammar.record
    [ ("name", part .text text), ("value", part .expr grammar.expr) ]
    fun parts => do
      return .letVar (← parts.text? "name") (← parts.expr? "value")

def assignStmt : Reader Stmt :=
  grammar.record
    [ ("target", part .text text), ("value", part .expr grammar.expr) ]
    fun parts => do
      return .assign (← parts.text? "target") (← parts.expr? "value")

def ifStmt : Reader Stmt :=
  grammar.record
    [ ("condition", part .expr grammar.expr), ("then_branch", part .stmts (list grammar.stmt)),
      ("else_branch", part .stmts (list grammar.stmt)) ]
    fun parts => do
      return .ifThen (← parts.expr? "condition") (← parts.stmts? "then_branch")
        ((parts.stmts? "else_branch").getD [])

def whileStmt : Reader Stmt :=
  grammar.record
    [ ("condition", part .expr grammar.expr), ("body", part .stmts (list grammar.stmt)) ]
    fun parts => do
      return .whileLoop (← parts.expr? "condition") (← parts.stmts? "body")

def forStmt : Reader Stmt :=
  grammar.record
    [ ("init", part .optionalStmt (option grammar.stmt)),
      ("condition", part .optionalExpr (option grammar.expr)),
      ("update", part .optionalStmt (option grammar.stmt)),
      ("body", part .stmts (list grammar.stmt)) ]
    fun parts => do
      return .forLoop (parts.optionalStmt "init") (parts.optionalExpr "condition")
        (parts.optionalStmt "update") (← parts.stmts? "body")

def readStmt : Reader Stmt :=
  variant
    [ ("Let", grammar.letStmt),
      ("Assign", grammar.assignStmt),
      ("Expr", do return .expression (← holding grammar.expr)),
      ("Print", do return .print (← holding grammar.expr)),
      ("Return", do return .returning (← holding (option grammar.expr))),
      ("Yield", return .yield),
      ("If", grammar.ifStmt),
      ("While", grammar.whileStmt),
      ("For", grammar.forStmt),
      ("Block", do return .block (← holding (list grammar.stmt))),
      ("Break", return .breakLoop),
      ("Continue", return .continueLoop) ]

def ofDepth : Nat → Grammar
  | 0 => { value := fail, expr := fail, stmt := fail, skip := fail }
  | depth + 1 =>
      { value := fun extensions room text => (ofDepth depth).readValue extensions room text
        expr := fun extensions room text => (ofDepth depth).readExpr extensions room text
        stmt := fun extensions room text => (ofDepth depth).readStmt extensions room text
        skip := fun extensions room text => skipValue (ofDepth depth).skip extensions room text }

def full : Grammar := ofDepth (nestingLimit + 1)

end Grammar

/-! ### Declarations -/

namespace Reader

open Grammar (part full)

def structDecl : Reader StructDecl := do
  let parts : Parts ←
    struct "StructDecl"
      [("name", part .text text), ("fields", part .texts (list text))] full.skip
  match parts.text? "name" with
  | none => fail
  | some name => return { name, fields := parts.texts "fields" }

def functionDecl : Reader FunctionDecl := do
  let parts : Parts ←
    struct "FunctionDecl"
      [ ("name", part .text text), ("params", part .texts (list text)),
        ("body", part .stmts (list full.stmt)), ("is_async", part .flag bool),
        ("owner", part .optionalText (option text)) ]
      full.skip
  match parts.text? "name", parts.stmts? "body" with
  | some name, some body =>
      return {
        name, body
        params := parts.texts "params"
        isAsync := parts.flag "is_async"
        owner := parts.optionalText "owner" }
  | _, _ => fail

def program : Reader Program := do
  let parts : Parts ←
    struct "Program"
      [ ("structs", part .structs (list structDecl)),
        ("functions", part .functions (list functionDecl)),
        ("main", part .stmts (list full.stmt)) ]
      full.skip
  return {
    structs := parts.structs "structs"
    functions := parts.functions "functions"
    main := (parts.stmts? "main").getD [] }

end Reader

def readValue? (source : String) : Option Value := read Grammar.full.value source

def readStmt? (source : String) : Option Stmt := read Grammar.full.stmt source

def readFunction? (source : String) : Option FunctionDecl := read Reader.functionDecl source

end CooperativeTasks.Document

namespace CooperativeTasks

def Program.load (source : String) : Except LoadError Program :=
  match Document.read Document.Reader.program source with
  | none => .error .malformed
  | some program =>
      match program.validate with
      | .error problem => .error problem
      | .ok () => .ok program

end CooperativeTasks
