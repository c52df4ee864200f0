import CooperativeTasks.Decimal.Binary

set_option autoImplicit false

/-! The fewest decimal digits that read back as a given double.

A decimal reads back as a double when it lies among the reals that round to it: from halfway
to the neighbour below to halfway to the neighbour above, the ends included when the
significand is even. The search tries one digit, then two, and so on; on each grid only the
two neighbours of the value can be nearest, and both are tested in exact arithmetic. -/

namespace CooperativeTasks.Decimal

/-- The number `digits * 10 ^ exponent`. -/
structure Digits where
  digits : Nat
  exponent : Int
  deriving Repr, DecidableEq

/-- Which of two equally near decimals is taken. -/
inductive Tie where
  | toEven
  | upward

def compareScaled (digits : Nat) (ten : Int) (binary : Nat) (two : Int) : Ordering :=
  compare (digits * Nat.pow 10 ten.toNat * Nat.pow 2 (-two).toNat)
    (binary * Nat.pow 2 two.toNat * Nat.pow 10 (-ten).toNat)

def Binary.readsBack (value : Binary) (decimal : Digits) : Bool :=
  let low := if value.narrowBelow then 4 * value.significand - 1 else 4 * value.significand - 2
  let high := 4 * value.significand + 2
  let inclusive := value.significand % 2 == 0
  let fromLow := compareScaled decimal.digits decimal.exponent low (value.exponent - 2)
  let toHigh := compareScaled decimal.digits decimal.exponent high (value.exponent - 2)
  (fromLow == .gt || (inclusive && fromLow == .eq)) && (toHigh == .lt || (inclusive && toHigh == .eq))

/-- The value's lower neighbour among the multiples of `10 ^ exponent`. -/
def Binary.floorAt (value : Binary) (exponent : Int) : Nat :=
  (value.significand * Nat.pow 2 value.exponent.toNat * Nat.pow 10 (-exponent).toNat)
    / (Nat.pow 2 (-value.exponent).toNat * Nat.pow 10 exponent.toNat)

/-- A power of ten above the value, at most a few powers too high: the binary logarithm
times `0.30103`, rounded up. -/
def Binary.decimalCeiling (value : Binary) : Int :=
  ((value.significand.log2 : Int) + value.exponent + 1) * 30103 / 100000 + 1

/-- Lowers `exponent` while the value stays below `10 ^ (exponent - 1)`. -/
def Binary.settleScale (value : Binary) : Nat → Int → Int
  | 0, exponent => exponent
  | tries + 1, exponent =>
      if compareScaled 1 (exponent - 1) value.significand value.exponent == .gt
      then value.settleScale tries (exponent - 1)
      else exponent

/-- The one of `low` and `low + 1` that is nearer to the value, on the grid of `exponent`. -/
def Binary.nearer (value : Binary) (tie : Tie) (low : Nat) (exponent : Int) : Nat :=
  match compareScaled (2 * low + 1) exponent (2 * value.significand) value.exponent with
  | .lt => low + 1
  | .gt => low
  | .eq =>
      match tie with
      | .upward => low + 1
      | .toEven => if low % 2 = 0 then low else low + 1

def Binary.candidate? (value : Binary) (tie : Tie) (exponent : Int) : Option Digits :=
  let low := value.floorAt exponent
  match value.readsBack ⟨low, exponent⟩, value.readsBack ⟨low + 1, exponent⟩ with
  | true, true => some ⟨value.nearer tie low exponent, exponent⟩
  | true, false => some ⟨low, exponent⟩
  | false, true => some ⟨low + 1, exponent⟩
  | false, false => none

def stripZeros : Nat → Digits → Digits
  | 0, decimal => decimal
  | tries + 1, decimal =>
      if decimal.digits ≠ 0 ∧ decimal.digits % 10 = 0
      then stripZeros tries ⟨decimal.digits / 10, decimal.exponent + 1⟩
      else decimal

def Binary.exactDigits (value : Binary) : Digits :=
  if 0 ≤ value.exponent then ⟨value.significand * Nat.pow 2 value.exponent.toNat, 0⟩
  else ⟨value.significand * Nat.pow 5 (-value.exponent).toNat, value.exponent⟩

def Binary.shortest (value : Binary) (tie : Tie) : Digits :=
  if value.significand = 0 then ⟨0, 0⟩
  else
    let scale := value.settleScale 4 value.decimalCeiling
    let found := (List.range 17).findSome? fun (count : Nat) =>
      value.candidate? tie (scale - count - 1)
    stripZeros 32 (found.getD value.exactDigits)

end CooperativeTasks.Decimal
