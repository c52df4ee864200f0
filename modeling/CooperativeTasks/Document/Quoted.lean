import CooperativeTasks.Document.Number

set_option autoImplicit false

/-! Quoted texts in documents.

In a quoted text a backslash starts an escape; a raw text has none and ends at a quote that is
followed by as many hash signs as it was opened with. -/

namespace CooperativeTasks.Document

def takeByte : List Char → Option (Nat × List Char)
  | high :: low :: rest =>
      match hexDigit? high, hexDigit? low with
      | some highValue, some lowValue => some (highValue * 16 + lowValue, rest)
      | _, _ => none
  | _ => none

/-- The character that bytes encode in UTF-8, all of them. -/
def decodeUtf8 (bytes : List Nat) : Option Char :=
  match (String.fromUTF8? ⟨(bytes.map UInt8.ofNat).toArray⟩).map String.toList with
  | some [letter] => some letter
  | _ => none

/-- Goes on with bytes, each written as an escape of its own, until they encode a character;
four at most. -/
def takeEncoded : Nat → List Nat → List Char → Option (Char × List Char)
  | 0, _, _ => none
  | left + 1, bytes, text =>
      match decodeUtf8 bytes with
      | some letter => some (letter, text)
      | none =>
          match text with
          | '\\' :: 'x' :: digits =>
              match takeByte digits with
              | some (byte, rest) => takeEncoded left (bytes ++ [byte]) rest
              | none => none
          | _ => none

def scalar? (code : Nat) : Option Char :=
  if code < 0xD800 ∨ (0xDFFF < code ∧ code < 0x110000) then some (Char.ofNat code) else none

/-- A character number of one to six hexadecimal digits in braces. -/
def takeNumbered : List Char → Option (Char × List Char)
  | '\x7b' :: text =>
      let digits := (text.takeWhile fun letter => (hexDigit? letter).isSome).take 6
      match digits.isEmpty, text.drop digits.length with
      | false, '\x7d' :: rest =>
          match (digitsValue? 16 digits).bind scalar? with
          | some letter => some (letter, rest)
          | none => none
      | _, _ => none
  | _ => none

/-- What stands between quotes, which decides on the escapes. -/
inductive Quotation where
  | text
  | character
  | bytes
  | byte
  deriving DecidableEq, Repr

namespace Quotation

/-- A byte by its number. Among bytes it stands for itself; elsewhere it has to encode a
character, in a text together with the bytes that follow. -/
def takeByteEscape (quotation : Quotation) (code : Nat) (rest : List Char) :
    Option (Char × List Char) :=
  match quotation with
  | .text => takeEncoded 4 [code] rest
  | .character => takeEncoded 1 [code] rest
  | .bytes => some (Char.ofNat code, rest)
  | .byte => some (Char.ofNat code, rest)

def takeEscape (quotation : Quotation) : List Char → Option (Char × List Char)
  | [] => none
  | mark :: rest =>
      if mark = 'n' then some ('\n', rest)
      else if mark = 'r' then some ('\r', rest)
      else if mark = 't' then some ('\t', rest)
      else if mark = '0' then some (Char.ofNat 0, rest)
      else if mark = '\\' ∨ mark = '"' ∨ mark = '\'' then some (mark, rest)
      else if mark = 'x' then
        match takeByte rest with
        | some (code, rest) => quotation.takeByteEscape code rest
        | none => none
      else if mark = 'u' ∧ quotation ≠ .byte then takeNumbered rest
      else none

/-- A single character or byte up to and with the closing quote. A byte that is not escaped is
one of the first 128 characters. -/
def takeSingle (quotation : Quotation) (text : List Char) : Option (Char × List Char) :=
  let taken :=
    match text with
    | [] => none
    | '\\' :: rest => quotation.takeEscape rest
    | letter :: rest =>
        if quotation = .byte ∧ 0x80 ≤ letter.toNat then none else some (letter, rest)
  match taken with
  | some (letter, '\'' :: rest) => some (letter, rest)
  | _ => none

/-- A blank that a joined line may start with. -/
def isLineBlank (letter : Char) : Bool := [' ', '\t', '\n', '\r'].contains letter

/-- The inside of a quoted text up to and with the closing quote. Every round takes at least
one character, so that their number bounds the rounds. A backslash at the end of a line joins
the next line to it, without the blanks that line starts with. -/
def takeQuoted (quotation : Quotation) : Nat → List Char → Option (List Char × List Char)
  | 0, _ => none
  | _ + 1, [] => none
  | _ + 1, '"' :: rest => some ([], rest)
  | rounds + 1, '\\' :: '\n' :: rest => quotation.takeQuoted rounds (rest.dropWhile isLineBlank)
  | rounds + 1, '\\' :: '\r' :: '\n' :: rest =>
      quotation.takeQuoted rounds (rest.dropWhile isLineBlank)
  | rounds + 1, '\\' :: rest =>
      match quotation.takeEscape rest with
      | none => none
      | some (letter, rest) =>
          match quotation.takeQuoted rounds rest with
          | none => none
          | some (letters, rest) => some (letter :: letters, rest)
  | rounds + 1, letter :: rest =>
      match quotation.takeQuoted rounds rest with
      | none => none
      | some (letters, rest) => some (letter :: letters, rest)

end Quotation

/-- The text up to the first place where `ending` stands, and what follows that. -/
def takeUntil (ending : List Char) : List Char → Option (List Char × List Char)
  | [] => none
  | letter :: rest =>
      match Reader.takeWord ending (letter :: rest) with
      | some after => some ([], after)
      | none => (takeUntil ending rest).map fun (letters, after) => (letter :: letters, after)

def takeRaw (text : List Char) : Option (List Char × List Char) :=
  let hashes := text.takeWhile (· == '#')
  match text.drop hashes.length with
  | '"' :: rest => takeUntil ('"' :: hashes) rest
  | _ => none

def takeText : List Char → Option (List Char × List Char)
  | '"' :: rest => Quotation.text.takeQuoted (rest.length + 1) rest
  | 'r' :: rest => takeRaw rest
  | _ => none

def takeBytes : List Char → Option (List Char × List Char)
  | 'b' :: '"' :: rest => Quotation.bytes.takeQuoted (rest.length + 1) rest
  | 'b' :: 'r' :: rest => takeRaw rest
  | _ => none

def takeCharacter : List Char → Option (Char × List Char)
  | '\'' :: rest => Quotation.character.takeSingle rest
  | _ => none

def takeSingleByte : List Char → Option (Char × List Char)
  | 'b' :: '\'' :: rest => Quotation.byte.takeSingle rest
  | _ => none

def Reader.text : Reader String := do
  return String.ofList (← lift takeText)

end CooperativeTasks.Document
