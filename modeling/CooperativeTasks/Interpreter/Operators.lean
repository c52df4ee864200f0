import CooperativeTasks.Fault
import CooperativeTasks.Program.Tree

set_option autoImplicit false

/-! What the operators compute.

Integers wrap. Two numbers are compared as doubles, whatever their types, and an ordering with
a NaN is false. Adding anything to a text joins the texts. -/

namespace CooperativeTasks

def Value.truth (value : Value) : Except Fault Bool :=
  match value.toBool? with
  | some truth => .ok truth
  | none => .error (.typeError ("expected bool, found " ++ value.typeName))

def UnaryOperator.apply : UnaryOperator → Value → Except Fault Value
  | .neg, .int number => .ok (.int (-number))
  | .neg, .float number => .ok (.float (-number))
  | .neg, value => .error (.typeError ("cannot negate " ++ value.typeName))
  | .not, value => value.truth.map fun truth => .bool !truth

namespace BinaryOperator

def mismatch (operator : BinaryOperator) (left right : Value) : Fault :=
  .typeError ("unsupported operands for " ++ operator.name ++ ": " ++ left.typeName ++ " and "
    ++ right.typeName)

/-- Numbers are equal as doubles; other values only to values of their own type. -/
def equals : Value → Value → Bool
  | .int left, .int right => Value.floatOfInt left == Value.floatOfInt right
  | .int left, .float right => Value.floatOfInt left == right
  | .float left, .int right => left == Value.floatOfInt right
  | left, right => left.same right

def holdsOfTexts (left right : String) : BinaryOperator → Bool
  | .lt => left < right
  | .le => !(right < left)
  | .gt => right < left
  | .ge => !(left < right)
  | _ => false

def holdsOfNumbers (left right : Float) : BinaryOperator → Bool
  | .lt => left < right
  | .le => left ≤ right
  | .gt => right < left
  | .ge => right ≤ left
  | _ => false

def compare (operator : BinaryOperator) (left right : Value) : Except Fault Value :=
  match left, right with
  | .str leftText, .str rightText => .ok (.bool (operator.holdsOfTexts leftText rightText))
  | _, _ =>
      match left.toFloat?, right.toFloat? with
      | some leftNumber, some rightNumber =>
          .ok (.bool (operator.holdsOfNumbers leftNumber rightNumber))
      | _, _ => .error (operator.mismatch left right)

def onInts (left right : Int64) : BinaryOperator → Except Fault Value
  | .add => .ok (.int (left + right))
  | .sub => .ok (.int (left - right))
  | .mul => .ok (.int (left * right))
  | .div => if right = 0 then .error .divisionByZero else .ok (.int (left / right))
  | .mod => if right = 0 then .error .divisionByZero else .ok (.int (left % right))
  | operator => .error (.typeError ("unsupported integer operator " ++ operator.name))

def onFloats? (left right : Float) : BinaryOperator → Option Value
  | .add => some (.float (left + right))
  | .sub => some (.float (left - right))
  | .mul => some (.float (left * right))
  | .div => some (.float (left / right))
  | .mod => some (.float (Decimal.remainder left right))
  | _ => none

def arithmetic (operator : BinaryOperator) (left right : Value) : Except Fault Value :=
  match left, right with
  | .int leftNumber, .int rightNumber => operator.onInts leftNumber rightNumber
  | _, _ =>
      match left.toFloat?, right.toFloat? with
      | some leftNumber, some rightNumber =>
          match operator.onFloats? leftNumber rightNumber with
          | some value => .ok value
          | none => .error (operator.mismatch left right)
      | _, _ => .error (operator.mismatch left right)

/-- Addition joins texts as soon as one side is a text. -/
def plus (left right : Value) : Except Fault Value :=
  match left, right with
  | .str leftText, _ => .ok (.str (leftText ++ right.text))
  | _, .str rightText => .ok (.str (left.text ++ rightText))
  | _, _ => BinaryOperator.add.arithmetic left right

/-- The strict operators. `and` and `or` are not among them: they look at their second operand
only if they need it. -/
def apply (operator : BinaryOperator) (left right : Value) : Except Fault Value :=
  match operator with
  | .eq => .ok (.bool (equals left right))
  | .ne => .ok (.bool !(equals left right))
  | .add => plus left right
  | .lt => operator.compare left right
  | .le => operator.compare left right
  | .gt => operator.compare left right
  | .ge => operator.compare left right
  | _ => operator.arithmetic left right

end BinaryOperator

end CooperativeTasks
