import CooperativeTasks.Decimal.Shortest

set_option autoImplicit false

/-! How the digits of a double are set as text.

`plain` is the text a program sees when it prints a number or joins one to a text: never an
exponent, and no fraction on whole numbers. `scientific` is the text of a number in a report:
whole numbers keep a fraction, and very large or small ones have an exponent. -/

namespace CooperativeTasks.Decimal

def digitText (number : Nat) : String := Nat.repr number

def zeros (count : Nat) : String := String.ofList (List.replicate count '0')

/-- Sets digits around the decimal point that follows the first `point` of them; `whole` is
written in place of a missing fraction. -/
def positional (digits : String) (point : Int) (whole : String) : String :=
  let count := digits.length
  if point ≤ 0 then "0." ++ zeros (-point).toNat ++ digits
  else if (count : Int) ≤ point then digits ++ zeros (point.toNat - count) ++ whole
  else
    let characters := digits.toList
    String.ofList (characters.take point.toNat) ++ "." ++ String.ofList (characters.drop point.toNat)

def withSign (negative : Bool) (text : String) : String :=
  if negative then "-" ++ text else text

def plain (number : Float) : String :=
  match Reading.ofFloat number with
  | .notANumber => "NaN"
  | .infinite negative => withSign negative "inf"
  | .finite negative magnitude =>
      let decimal := magnitude.shortest .upward
      let digits := digitText decimal.digits
      withSign negative <|
        if decimal.digits = 0 then "0" else positional digits (digits.length + decimal.exponent) ""

/-- An exponent of ten, which always has a sign. -/
def exponentText (exponent : Int) : String :=
  (if exponent < 0 then "e-" else "e+") ++ Nat.repr exponent.natAbs

def withExponent (digits : String) (point : Int) : String :=
  let exponent := exponentText (point - 1)
  match digits.toList with
  | [] => ""
  | [only] => only.toString ++ exponent
  | first :: rest => first.toString ++ "." ++ String.ofList rest ++ exponent

/-- No text for a number that is not finite. Numbers from `0.00001` to below `10 ^ 16` are set
around the point. -/
def scientific? (number : Float) : Option String :=
  match Reading.ofFloat number with
  | .notANumber => none
  | .infinite _ => none
  | .finite negative magnitude =>
      let decimal := magnitude.shortest .toEven
      let digits := digitText decimal.digits
      let point : Int := digits.length + decimal.exponent
      some <| withSign negative <|
        if decimal.digits = 0 then "0.0"
        else if -5 < point ∧ point ≤ 16 then positional digits point ".0"
        else withExponent digits point

end CooperativeTasks.Decimal
