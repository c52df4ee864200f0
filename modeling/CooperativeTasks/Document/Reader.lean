import CooperativeTasks.Document.Letters

set_option autoImplicit false

/-! Readers of documents, and the tokens that all of them share.

A reader takes characters from the front of a text and gives what they stand for with the
rest, or nothing. It also knows which extensions the document has switched on, and how much
room is left for nesting: `nested` takes one unit for as long as what it encloses lasts. -/

namespace CooperativeTasks.Document

/-- Departures from the plain notation that a document can ask for. -/
structure Extensions where
  /-- An optional value may be written without `Some`. -/
  implicitSome : Bool := false
  /-- A struct that is all a variant holds is written without parentheses and name of its own. -/
  unwrapVariants : Bool := false
  /-- The names of structs have to be written. -/
  explicitNames : Bool := false

def Extensions.union (left right : Extensions) : Extensions where
  implicitSome := left.implicitSome || right.implicitSome
  unwrapVariants := left.unwrapVariants || right.unwrapVariants
  explicitNames := left.explicitNames || right.explicitNames

def Reader (α : Type) : Type := Extensions → Nat → List Char → Option (α × List Char)

namespace Reader

variable {α β : Type}

protected def pure (value : α) : Reader α := fun _ _ text => some (value, text)

protected def bind (first : Reader α) (next : α → Reader β) : Reader β :=
  fun extensions room text =>
    match first extensions room text with
    | none => none
    | some (value, rest) => next value extensions room rest

instance : Monad Reader where
  pure := Reader.pure
  bind := Reader.bind

def fail : Reader α := fun _ _ _ => none

def ofOption : Option α → Reader α
  | none => fail
  | some value => Reader.pure value

def extensions : Reader Extensions := fun extensions _ text => some (extensions, text)

def remaining : Reader (List Char) := fun _ _ text => some (text, text)

def peek : Reader (Option Char) := fun _ _ text => some (text.head?, text)

/-- Reads one level deeper; there has to be room for it. -/
def nested (reader : Reader α) : Reader α := fun extensions room text =>
  match room with
  | 0 => none
  | left + 1 => reader extensions left text

/-- What a function makes of the text and gives with the rest. -/
def lift (split : List Char → Option (α × List Char)) : Reader α := fun _ _ text => split text

/-! ### Characters -/

def takeWord : List Char → List Char → Option (List Char)
  | [], text => some text
  | _ :: _, [] => none
  | letter :: word, other :: text => if letter = other then takeWord word text else none

def consumeText (word : String) : Reader Bool := fun _ _ text =>
  match takeWord word.toList text with
  | some rest => some (true, rest)
  | none => some (false, text)

def startsWith (word : String) : Reader Bool := fun _ _ text =>
  some ((takeWord word.toList text).isSome, text)

def consume (letter : Char) : Reader Bool := fun _ _ text =>
  match text with
  | [] => some (false, [])
  | other :: rest => if other = letter then some (true, rest) else some (false, other :: rest)

def expect (letter : Char) : Reader Unit := do
  if !(← consume letter) then fail

def takeWhile (test : Char → Bool) : Reader (List Char) := fun _ _ text =>
  some (text.takeWhile test, text.dropWhile test)

/-! ### Blanks and comments -/

def isBlank (letter : Char) : Bool :=
  [0x20, 0x09, 0x0A, 0x0D, 0x0B, 0x0C, 0x85, 0x200E, 0x200F, 0x2028, 0x2029].contains letter.toNat

/-- Where a place between two tokens lies. -/
inductive Gap where
  | outside
  | lineComment
  /-- A comment inside so many others. -/
  | blockComment (depth : Nat)

/-- Skips blanks and comments. A stroke that starts no comment and a comment that is not closed
are errors; the end of the text closes a line comment. -/
def skipGap : Gap → List Char → Option (List Char)
  | .outside, [] => some []
  | .lineComment, [] => some []
  | .blockComment _, [] => none
  | .outside, '/' :: '/' :: rest => skipGap .lineComment rest
  | .outside, '/' :: '*' :: rest => skipGap (.blockComment 0) rest
  | .outside, letter :: rest =>
      if isBlank letter then skipGap .outside rest
      else if letter = '/' then none
      else some (letter :: rest)
  | .lineComment, letter :: rest =>
      if letter = '\n' then skipGap .outside rest else skipGap .lineComment rest
  | .blockComment depth, '/' :: '*' :: rest => skipGap (.blockComment (depth + 1)) rest
  | .blockComment 0, '*' :: '/' :: rest => skipGap .outside rest
  | .blockComment (depth + 1), '*' :: '/' :: rest => skipGap (.blockComment depth) rest
  | .blockComment depth, _ :: rest => skipGap (.blockComment depth) rest

def blanks : Reader Unit := lift fun text => (skipGap .outside text).map fun rest => ((), rest)

def comma : Reader Bool := do
  blanks
  if ← consume ',' then
    blanks
    return true
  else
    return false

/-! ### Names -/

/-- The starts of quoted texts and characters that could be taken for names. -/
def quoteStarts : List String := ["b\"", "b'", "br#", "br\"", "r\"", "r#\"", "r##"]

def startsQuote (text : List Char) : Bool :=
  quoteStarts.any fun start => (takeWord start.toList text).isSome

/-- A name, also one that is marked with `r#`. A plain name must not run on with a point or a
sign. -/
def splitName (text : List Char) : Option (String × List Char) :=
  match text with
  | [] => none
  | first :: _ =>
      if !isNameStart first || startsQuote text then none
      else
        match takeWord ['r', '#'] text with
        | some marked =>
            let name := marked.takeWhile isMarkedNamePart
            if name.isEmpty then none
            else some (String.ofList name, marked.dropWhile isMarkedNamePart)
        | none =>
            let rest := text.dropWhile isNamePart
            if rest.head?.any isMarkedNamePart then none
            else some (String.ofList (text.takeWhile isNamePart), rest)

def name : Reader String := lift splitName

def takeWholeWord (word : String) (text : List Char) : Option (List Char) :=
  match takeWord word.toList text with
  | none => none
  | some rest => if rest.head?.any isNamePart then none else some rest

def consumeWord (word : String) : Reader Bool := fun _ _ text =>
  match takeWholeWord word text with
  | some rest => some (true, rest)
  | none => some (false, text)

/-- Takes the first of the words that stands there as a whole. -/
def consumeOneOf : List String → Reader Bool
  | [] => return false
  | word :: others => do
      if ← consumeWord word then return true else consumeOneOf others

end Reader

end CooperativeTasks.Document
