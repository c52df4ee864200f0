set_option autoImplicit false

/-! Doubles as exact binary numbers.

A finite double is a natural significand times a power of two. Everything that has to be
exact about doubles beyond the four arithmetic operations, its shortest decimal and its
remainder, is computed on this form and not on rounded doubles. -/

namespace CooperativeTasks.Decimal

/-- The magnitude `significand * 2 ^ exponent` of a finite double. -/
structure Binary where
  significand : Nat
  exponent : Int
  /-- The gap to the next smaller double is half the gap to the next larger one. -/
  narrowBelow : Bool

/-- What the bits of a double stand for. -/
inductive Reading where
  | notANumber
  | infinite (negative : Bool)
  | finite (negative : Bool) (magnitude : Binary)

def exponentField (bits : UInt64) : Nat := ((bits >>> 52) &&& 0x7FF).toNat

def fractionField (bits : UInt64) : Nat := (bits &&& 0xFFFFFFFFFFFFF).toNat

def signBit (bits : UInt64) : Bool := bits >>> 63 == 1

/-- The magnitude of bits whose exponent field is not the one of infinities. -/
def Binary.ofBits (bits : UInt64) : Binary :=
  let field := exponentField bits
  let fraction := fractionField bits
  if field = 0 then ⟨fraction, -1074, false⟩
  else ⟨Nat.pow 2 52 + fraction, (field : Int) - 1075, fraction == 0 && 1 < field⟩

def Reading.ofFloat (number : Float) : Reading :=
  let bits := number.toBits
  if exponentField bits = 0x7FF then
    if fractionField bits = 0 then .infinite (signBit bits) else .notANumber
  else .finite (signBit bits) (Binary.ofBits bits)

/-- The double of sign `negative` and magnitude `significand * 2 ^ exponent`, for a magnitude
that some double has: a significand below `2 ^ 53` over an exponent of at least `-1074`. -/
def ofMagnitude (negative : Bool) (significand : Nat) (exponent : Int) : Float :=
  let sign : UInt64 := if negative then 0x8000000000000000 else 0
  if significand = 0 then Float.ofBits sign
  else
    let shift := min (52 - significand.log2) (exponent + 1074).toNat
    let aligned := significand <<< shift
    let field := if aligned < Nat.pow 2 52 then 0 else (exponent - shift + 1075).toNat
    Float.ofBits (sign ||| (UInt64.ofNat field <<< 52) ||| UInt64.ofNat (aligned % Nat.pow 2 52))

/-- The exact remainder of a division that rounds its quotient toward zero. The sign is the
dividend's; dividing by an infinity leaves a finite dividend as it is. -/
def remainder (dividend divisor : Float) : Float :=
  match Reading.ofFloat dividend, Reading.ofFloat divisor with
  | .finite negative numerator, .finite _ denominator =>
      if denominator.significand = 0 then 0.0 / 0.0
      else
        let exponent := min numerator.exponent denominator.exponent
        let left := numerator.significand <<< (numerator.exponent - exponent).toNat
        let right := denominator.significand <<< (denominator.exponent - exponent).toNat
        ofMagnitude negative (left % right) exponent
  | .finite _ _, .infinite _ => dividend
  | _, _ => 0.0 / 0.0

end CooperativeTasks.Decimal
