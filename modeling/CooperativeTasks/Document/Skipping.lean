import CooperativeTasks.Document.Shape

set_option autoImplicit false

/-! Values of no known shape, which are checked and passed over.

Here the notation is wider than where a shape is known: there are bytes, ranges of numbers, and
numbers of any type that they name. -/

namespace CooperativeTasks.Document

/-! ### Numbers -/

def integerTypes : List (String × Int × Int) :=
  [ ("i8", Int8.minValue.toInt, Int8.maxValue.toInt),
    ("i16", Int16.minValue.toInt, Int16.maxValue.toInt),
    ("i32", Int32.minValue.toInt, Int32.maxValue.toInt),
    ("i64", Int64.minValue.toInt, Int64.maxValue.toInt), ("u8", 0, UInt8.size - 1),
    ("u16", 0, UInt16.size - 1), ("u32", 0, UInt32.size - 1), ("u64", 0, UInt64.size - 1) ]

def doubleTypes : List String := ["f32", "f64"]

/-- The words for numbers that take no sign. -/
def doubleWords : List String :=
  ["inf", "NaN"].flatMap fun word => word :: doubleTypes.map (word ++ ·)

def startsNumber (text : List Char) : Bool :=
  text.head?.any (fun letter => isDigit letter || ['+', '-', '.'].contains letter)
    || (Reader.takeWord ['b', '\''] text).isSome
    || doubleWords.any fun word => (Reader.takeWholeWord word text).isSome

/-- Whether a number that starts here can only be a double: it goes on where the digits of a
whole number end. -/
def startsDouble (text : List Char) : Bool :=
  let unsigned := (takeSign text).2
  decide ((unsigned.takeWhile isHexPart).length < (splitDouble unsigned).1.length)

namespace Reader

/-- The range of the type that is named next; without a name, all that some type can hold. -/
def integerRange : List (String × Int × Int) → Reader (Int × Int)
  | [] => return (Int64.minValue.toInt, UInt64.size - 1)
  | (suffix, range) :: others => do
      if ← consumeWord suffix then return range else integerRange others

def skipWholeNumber : Reader Unit := do
  let value ← wholeNumber
  let (low, high) ← integerRange integerTypes
  if low ≤ value && value ≤ high then return else fail

def skipDouble : Reader Unit := do
  let _ ← doubleOf doubleTypes

def orElse {α : Type} (first second : Reader α) : Reader α := fun extensions room text =>
  match first extensions room text with
  | some result => some result
  | none => second extensions room text

/-- Skips a number or a byte. A whole number that no type can hold is read as a double. -/
def skipNumber : Reader Unit := do
  if ← startsWith "b'" then
    let _ ← lift takeSingleByte
  else if startsDouble (← remaining) then
    skipDouble
  else
    orElse skipWholeNumber skipDouble

/-- Skips a number, or a range with a number at either end, at both or at none. A range that
includes its upper end has to have one. -/
def skipNumbers : Reader Unit := do
  if !(← startsWith "..") then skipNumber
  if ← consumeText ".." then
    let inclusive ← consume '='
    if inclusive || startsNumber (← remaining) then skipNumber

end Reader

/-! ### Parentheses -/

/-- Whether parentheses hold named fields: they start with a name and a colon. -/
def holdsFields (text : List Char) : Bool :=
  match Reader.skipGap .outside text with
  | none => false
  | some inside =>
      match Reader.splitName inside with
      | none => false
      | some (_, rest) =>
          match Reader.skipGap .outside rest with
          | some (':' :: _) => true
          | _ => false

/-- The text after what stands in quotes at its start, be it a character, a text or bytes. -/
def dropQuoted? (text : List Char) : Option (List Char) :=
  ((takeCharacter text).map Prod.snd).or <|
    ((takeText text).map Prod.snd).or ((takeBytes text).map Prod.snd)

/-- Whether parentheses hold more than one value: at their own level, a comma stands in them and
not just before their end. What stands in quotes does not count. There is no answer where they
are not closed; every round takes a character, so that their number bounds the rounds. -/
def holdsSeveral : Nat → Nat → List Char → Option Bool
  | 0, _, _ => none
  | rounds + 1, level, text =>
      match Reader.skipGap .outside text with
      | none => none
      | some text =>
          match dropQuoted? text, text with
          | some rest, _ => holdsSeveral rounds level rest
          | none, [] => none
          | none, letter :: rest =>
              if ['(', '[', '\x7b'].contains letter then holdsSeveral rounds (level + 1) rest
              else if [')', ']', '\x7d'].contains letter then
                match level with
                | 0 => some false
                | outer + 1 => holdsSeveral rounds outer rest
              else if letter = ',' ∧ level = 0 then
                (Reader.skipGap .outside rest).map fun rest => rest.head? != some ')'
              else holdsSeveral rounds level rest

namespace Reader

/-- Skips the elements of a tuple up to the closing parenthesis, which stays. -/
def skipElements (skip : Reader Unit) : Reader Unit := do
  let _ ← nested (elements ')' (nested skip))

/-- Skips what may follow the name of a struct or variant: nothing, fields or a tuple. -/
def skipParenthesised (skip : Reader Unit) : Reader Unit := do
  match ← remaining with
  | '(' :: inside =>
      if holdsFields inside then
        let _ : List (String × Unit) ← bareStruct [] skip
      else
        expect '('
        skipElements skip
        expect ')'
  | _ => return

/-- Skips what a variant holds where it is written without parentheses of its own, up to the
closing one, which stays: nothing, fields, the elements of a tuple, or a value. -/
def skipUnwrapped (skip : Reader Unit) : Reader Unit := do
  let inside ← remaining
  if inside.head? == some ')' then
    return
  else if holdsFields inside then
    let _ : List (String × Unit) ← openStruct [] skip
  else if ← ofOption (holdsSeveral (inside.length + 1) 0 inside) then
    skipElements skip
  else
    skip

/-! ### Values -/

def skipOption (skip : Reader Unit) : Reader Unit := do
  let unwrap := (← extensions).unwrapVariants
  let _ ← optionOf (if unwrap then skipUnwrapped skip else skip) skip

/-- Skips a value of any shape, by means of a reader that skips its parts. -/
def skipValue (skip : Reader Unit) : Reader Unit := do
  if ← consumeOneOf ["true", "false"] then
    return
  else if (takeWholeWord "Some" (← remaining)).isSome then
    skipOption skip
  else if ← consumeWord "None" then
    return
  else if ← consumeText "()" then
    return
  else
    let text ← remaining
    if startsNumber text then
      skipNumbers
    else if (splitName text).isSome then
      let _ ← name
      blanks
      skipParenthesised skip
    else
      match text with
      | '(' :: _ => skipParenthesised skip
      | '[' :: _ =>
          let _ ← list skip
      | '\x7b' :: _ =>
          expect '\x7b'
          let _ ← nested <| elements '\x7d' do
            nested skip
            keyed skip
          blanks
          expect '\x7d'
      | 'b' :: _ =>
          let _ ← lift takeBytes
      | '\'' :: _ =>
          let _ ← lift takeCharacter
      | _ =>
          let _ ← Reader.text

end Reader

end CooperativeTasks.Document
