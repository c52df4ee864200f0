import CooperativeTasks.Bindings
import CooperativeTasks.Document.Quoted

set_option autoImplicit false

/-! The shapes of a document: lists, maps, tuples, structs, variants and options.

Commas separate elements, and one may follow the last. Where a loop reads elements, each of
them takes at least one character, so that the length of the text bounds the rounds. -/

namespace CooperativeTasks.Document.Reader

variable {α β : Type}

/-- Whether another element follows. Without a comma before it, only the end may. -/
def hasElement (close : Char) (afterComma : Bool) : Reader Bool := do
  blanks
  let ended := (← peek) == some close
  if ended then return false
  else if afterComma then return true
  else fail

def elementsWithin (close : Char) (element : Reader α) : Nat → Bool → Reader (List α)
  | 0, _ => fail
  | rounds + 1, afterComma => do
      if ← hasElement close afterComma then
        let first ← element
        let afterComma ← comma
        return first :: (← elementsWithin close element rounds afterComma)
      else
        return []

/-- Elements up to a closing character, which stays. -/
def elements (close : Char) (element : Reader α) : Reader (List α) := do
  elementsWithin close element ((← remaining).length + 1) true

def list (element : Reader α) : Reader (List α) := do
  expect '['
  let items ← nested (elements ']' (nested element))
  blanks
  expect ']'
  return items

def keyed (value : Reader α) : Reader α := do
  blanks
  expect ':'
  blanks
  nested value

/-- A map from texts. A key that comes again overwrites its value. -/
def map (value : Reader α) : Reader (List (String × α)) := do
  expect '\x7b'
  let entries ← nested <| elements '\x7d' do
    let key ← nested text
    return (key, ← keyed value)
  blanks
  expect '\x7d'
  return Bindings.insertAll entries []

/-- One element of a tuple of known length; whether a comma follows it. -/
def tupleElement (element : Reader α) (afterComma : Bool) : Reader (α × Bool) := do
  if ← hasElement ')' afterComma then
    let value ← nested element
    return (value, ← comma)
  else
    fail

def pair (first : Reader α) (second : Reader β) : Reader (α × β) := do
  expect '('
  let values ← nested do
    let (firstValue, afterComma) ← tupleElement first true
    let (secondValue, _) ← tupleElement second afterComma
    return (firstValue, secondValue)
  expect ')'
  return values

/-! ### Structs -/

/-- Reads the fields of a struct. A known field may stand once; the value of an unknown one is
skipped. -/
def fields (known : List (String × Reader α)) (skip : Reader Unit) :
    Nat → Bool → List (String × α) → Reader (List (String × α))
  | 0, _, _ => fail
  | rounds + 1, afterComma, found => do
      if ← hasElement ')' afterComma then
        let key ← nested name
        match Bindings.get? key known with
        | none =>
            keyed skip
            fields known skip rounds (← comma) found
        | some reader =>
            if Bindings.contains key found then fail
            else
              let value ← keyed reader
              fields known skip rounds (← comma) ((key, value) :: found)
      else
        return found

def openStruct (known : List (String × Reader α)) (skip : Reader Unit) :
    Reader (List (String × α)) := do
  let found ← nested (do fields known skip ((← remaining).length + 1) true [])
  let _ ← comma
  return found

def bareStruct (known : List (String × Reader α)) (skip : Reader Unit) :
    Reader (List (String × α)) := do
  expect '('
  let found ← openStruct known skip
  expect ')'
  return found

/-- A struct that may be preceded by its name, and has to be where names are explicit. -/
def struct (typeName : String) (known : List (String × Reader α)) (skip : Reader Unit) :
    Reader (List (String × α)) := do
  if (← peek).any isNamePart then
    if (← name) == typeName then blanks else fail
  else if (← extensions).explicitNames then
    fail
  bareStruct known skip

/-! ### Variants and options -/

/-- A value with one of several names, by what follows each name. -/
def variant (cases : List (String × Reader α)) : Reader α :=
  nested do
    blanks
    let key ← nested name
    match Bindings.get? key cases with
    | none => fail
    | some payload => payload

def holding (payload : Reader α) : Reader α := do
  blanks
  expect '('
  blanks
  let value ← nested payload
  let _ ← comma
  expect ')'
  return value

/-- `None`, `Some` with a value in parentheses or, where that is allowed, a bare value, which
may still follow a `Some`. -/
def optionOf (held bare : Reader α) : Reader (Option α) := do
  if ← consumeWord "None" then
    return none
  else
    let marked ← consumeWord "Some"
    if marked then blanks
    if marked && (← peek) == some '(' then
      return some (← holding held)
    else if (← extensions).implicitSome then
      return some (← nested bare)
    else
      fail

def option (value : Reader α) : Reader (Option α) := optionOf value value

def bool : Reader Bool := do
  if ← consumeWord "true" then
    return true
  else if ← consumeWord "false" then
    return false
  else
    fail

end CooperativeTasks.Document.Reader
