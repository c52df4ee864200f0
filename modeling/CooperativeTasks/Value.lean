import CooperativeTasks.Bindings
import CooperativeTasks.Decimal.Layout

set_option autoImplicit false

/-! The values that flow through programs, scopes and finished tasks.

Numbers are 64-bit integers, which wrap, and doubles. A struct keeps its fields in the order
in which they were first written. -/

namespace CooperativeTasks

inductive Value where
  | void
  | bool (truth : Bool)
  | int (number : Int64)
  | float (number : Float)
  | str (text : String)
  | struct (typeName : String) (fields : List (String × Value))
  deriving Inhabited

/-- How a finished task's payload is classified; truth values count as integers. -/
inductive ValueKind where
  | void
  | int
  | float
  | text
  | aggregate
  deriving DecidableEq, Repr

def ValueKind.name : ValueKind → String
  | .void => "Void"
  | .int => "Int"
  | .float => "Float"
  | .text => "Text"
  | .aggregate => "Aggregate"

namespace Value

def kind : Value → ValueKind
  | .void => .void
  | .bool _ => .int
  | .int _ => .int
  | .float _ => .float
  | .str _ => .text
  | .struct _ _ => .aggregate

def typeName : Value → String
  | .void => "void"
  | .bool _ => "bool"
  | .int _ => "int"
  | .float _ => "float"
  | .str _ => "string"
  | .struct name _ => name

/-! ### Conversions -/

def toInt? : Value → Option Int64
  | .int number => some number
  | .bool truth => some (if truth then 1 else 0)
  | _ => none

/-- The nearest double, ties to even. -/
def floatOfInt (number : Int64) : Float := Float.ofInt number.toInt

def toFloat? : Value → Option Float
  | .float number => some number
  | .int number => some (floatOfInt number)
  | _ => none

def toBool? : Value → Option Bool
  | .bool truth => some truth
  | .int number => some (number != 0)
  | _ => none

def toText? : Value → Option String
  | .str text => some text
  | _ => none

def fields? : Value → Option (List (String × Value))
  | .struct _ fields => some fields
  | _ => none

/-! ### Structs -/

def field? (name : String) (value : Value) : Option Value :=
  value.fields?.bind (Bindings.get? name)

def isStructOf (name : String) : Value → Bool
  | .struct typeName _ => typeName == name
  | _ => false

/-- Writes a field of a struct, adding it at the end if it is missing; any other value is
left as it is. -/
def setField (base : Value) (name : String) (value : Value) : Value :=
  match base with
  | .struct typeName fields => .struct typeName (Bindings.insert name value fields)
  | other => other

def errorType : String := "Error"

def error (kind message : String) : Value :=
  .struct errorType [("kind", .str kind), ("message", .str message)]

def isErrorOf (kind : String) (value : Value) : Bool :=
  value.isStructOf errorType && (value.field? "kind").bind toText? == some kind

/-! ### Equality

Numbers of different types differ, a double is compared as a number, and the order of a
struct's fields does not matter. -/

mutual

def same : Value → Value → Bool
  | .void, .void => true
  | .bool left, .bool right => left == right
  | .int left, .int right => left == right
  | .float left, .float right => left == right
  | .str left, .str right => left == right
  | .struct leftType leftFields, .struct rightType rightFields =>
      leftType == rightType && leftFields.length == rightFields.length
        && sameWithin leftFields rightFields
  | _, _ => false

/-- Every field of the first list is in the second with the same value. -/
def sameWithin : List (String × Value) → List (String × Value) → Bool
  | [], _ => true
  | (name, value) :: rest, others =>
      (match Bindings.get? name others with
        | some other => same value other
        | none => false)
      && sameWithin rest others

end

/-- Two sets of bindings hold the same values under the same names, in whatever order. -/
def sameBindings (left right : List (String × Value)) : Bool :=
  left.length == right.length && sameWithin left right

/-! ### Text -/

mutual

def text : Value → String
  | .void => "void"
  | .bool truth => if truth then "true" else "false"
  | .int number => toString number.toInt
  | .float number => Decimal.plain number
  | .str text => text
  | .struct typeName fields =>
      typeName ++ " \x7b " ++ String.intercalate ", " (fieldTexts fields) ++ " \x7d"

def fieldTexts : List (String × Value) → List String
  | [] => []
  | (name, value) :: rest => (name ++ ": " ++ text value) :: fieldTexts rest

end

end Value

end CooperativeTasks
