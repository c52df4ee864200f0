import CooperativeTasks.Document.Reader

set_option autoImplicit false

/-! Numbers in documents. -/

namespace CooperativeTasks.Document

def hexDigit? (letter : Char) : Option Nat :=
  if '0' ≤ letter ∧ letter ≤ '9' then some (letter.toNat - 48)
  else if 'a' ≤ letter ∧ letter ≤ 'f' then some (letter.toNat - 87)
  else if 'A' ≤ letter ∧ letter ≤ 'F' then some (letter.toNat - 55)
  else none

def isHexPart (letter : Char) : Bool := (hexDigit? letter).isSome || letter == '_'

def isDigit (letter : Char) : Bool := '0' ≤ letter && letter ≤ '9'

def isFloatPart (letter : Char) : Bool :=
  isDigit letter || ['e', 'E', '.', '+', '-', '_'].contains letter

def digitsValue? (base : Nat) (letters : List Char) : Option Nat :=
  letters.foldl
    (fun known letter =>
      if letter = '_' then known
      else
        match known, hexDigit? letter with
        | some value, some digit => if digit < base then some (value * base + digit) else none
        | _, _ => none)
    (some 0)

/-! ### Integers -/

namespace Reader

def sign : Reader Bool := do
  if ← consume '-' then
    return true
  else
    let _ ← consume '+'
    return false

def base : Reader Nat := do
  if ← consumeText "0x" then
    return 16
  else if ← consumeText "0o" then
    return 8
  else if ← consumeText "0b" then
    return 2
  else
    return 10

/-- A whole number of any size. The first digit is no underscore. -/
def wholeNumber : Reader Int := do
  let negative ← sign
  let base ← base
  let letters ← takeWhile isHexPart
  match letters with
  | [] => fail
  | first :: _ =>
      if first = '_' then fail
      else
        let value ← ofOption (digitsValue? base letters)
        return if negative then -(value : Int) else value

/-- A whole number in a range, which may carry the name of its type. -/
def integer (low high : Int) (suffix : String) : Reader Int := do
  let value ← wholeNumber
  let _ ← consumeText suffix
  if low ≤ value && value ≤ high then return value else fail

def int64 : Reader Int64 := do
  return Int64.ofInt (← integer Int64.minValue.toInt Int64.maxValue.toInt "i64")

def natural : Reader Nat := do
  return (← integer 0 (UInt64.size - 1) "u64").toNat

end Reader

/-! ### Doubles -/

/-- Removes underscores. One may stand after a digit or an exponent mark, signs between them
not counting, and not after a point. -/
def dropUnderscores : Bool → List Char → Option (List Char)
  | _, [] => some []
  | allowed, letter :: rest =>
      if letter = '_' then
        if allowed then dropUnderscores allowed rest else none
      else
        let allowed :=
          if letter = '.' then false
          else if letter = '+' ∨ letter = '-' then allowed
          else true
        (dropUnderscores allowed rest).map (letter :: ·)

def takeSign : List Char → Bool × List Char
  | '-' :: rest => (true, rest)
  | '+' :: rest => (false, rest)
  | text => (false, text)

/-- The exponent at the end of a number, which may be missing. -/
def exponent? : List Char → Option Int
  | [] => some 0
  | mark :: rest =>
      if mark = 'e' ∨ mark = 'E' then
        let (negative, digits) := takeSign rest
        if digits.isEmpty || !digits.all isDigit then none
        else (digitsValue? 10 digits).map fun value => if negative then -(value : Int) else value
      else none

/-- The double nearest to `digits * 10 ^ exponent`, ties to even. Where the result is sure to
be zero or infinite the power is not computed. -/
def nearestDouble (digits : Nat) (exponent : Int) : Float :=
  let size : Int := (Nat.repr digits).length + exponent
  if digits = 0 ∨ size < -400 then 0.0
  else if 400 < size then 1.0 / 0.0
  else Float.ofScientific digits (exponent < 0) exponent.natAbs

/-- A decimal number: digits with or without a point among or next to them, and an exponent. -/
def decimal? (text : List Char) : Option Float :=
  let (negative, unsigned) := takeSign text
  let whole := unsigned.takeWhile isDigit
  let afterWhole := unsigned.dropWhile isDigit
  let (fraction, tail) :=
    match afterWhole with
    | '.' :: rest => (rest.takeWhile isDigit, rest.dropWhile isDigit)
    | rest => ([], rest)
  if whole.isEmpty && fraction.isEmpty then none
  else
    match digitsValue? 10 (whole ++ fraction), exponent? tail with
    | some digits, some exponent =>
        let magnitude := nearestDouble digits (exponent - fraction.length)
        some (if negative then -magnitude else magnitude)
    | _, _ => none

/-- A double by itself: a decimal number, or the word for one that has no digits, in letters of
either case. -/
def doubleOfText? (text : String) : Option Float :=
  let (negative, unsigned) := takeSign text.toList
  let word := String.ofList (unsigned.map Char.toLower)
  if word = "inf" ∨ word = "infinity" then
    some (if negative then -1.0 / 0.0 else 1.0 / 0.0)
  else if word = "nan" then some (0.0 / 0.0)
  else decimal? text.toList

def namedDoubles : List (String × Float) :=
  [ ("inf", 1.0 / 0.0), ("+inf", 1.0 / 0.0), ("-inf", -1.0 / 0.0),
    ("NaN", 0.0 / 0.0), ("+NaN", 0.0 / 0.0), ("-NaN", 0.0 / 0.0) ]

/-- Splits off the characters of a double. Two points in a row are not among them: they stand
between the bounds of a range. -/
def splitDouble : List Char → List Char × List Char
  | [] => ([], [])
  | '.' :: '.' :: rest => ([], '.' :: '.' :: rest)
  | letter :: rest =>
      if isFloatPart letter then
        let (letters, after) := splitDouble rest
        (letter :: letters, after)
      else
        ([], letter :: rest)

namespace Reader

def namedDouble (types : List String) : List (String × Float) → Reader (Option Float)
  | [] => return none
  | (word, number) :: others => do
      if ← consumeOneOf (word :: types.map (word ++ ·)) then
        return some number
      else
        namedDouble types others

def doubleOf (types : List String) : Reader Float := do
  match ← namedDouble types namedDoubles with
  | some number => return number
  | none =>
      let letters ← lift fun text => some (splitDouble text)
      let number ← ofOption ((dropUnderscores false letters).bind decimal?)
      let _ ← consumeOneOf types
      return number

def double : Reader Float := doubleOf ["f64"]

end Reader

end CooperativeTasks.Document
