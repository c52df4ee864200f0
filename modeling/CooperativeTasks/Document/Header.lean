import CooperativeTasks.Document.Skipping

set_option autoImplicit false

/-! Whole documents: attributes at the front, one value, and nothing after it. -/

namespace CooperativeTasks.Document

/-- How deeply the parts of a document may nest. -/
def nestingLimit : Nat := 128

def Extensions.ofName? (name : String) : Option Extensions :=
  if name = "implicit_some" then some { implicitSome := true }
  else if name = "unwrap_newtypes" then some {}
  else if name = "unwrap_variant_newtypes" then some { unwrapVariants := true }
  else if name = "explicit_struct_names" then some { explicitNames := true }
  else none

namespace Reader

def token (word : String) : Reader Unit := do
  if ← consumeText word then blanks else fail

def extensionList : Reader Extensions := do
  let listed ← elements ')' do
    ofOption (Extensions.ofName? (← name))
  match listed with
  | [] => fail
  | first :: rest => return rest.foldl Extensions.union first

/-- An attribute: extensions to switch on, or a remark that is skipped. -/
def headerItem : Reader Extensions := do
  token "#"
  token "!"
  token "["
  let extensions ←
    if ← consumeWord "enable" then
      blanks
      token "("
      let listed ← extensionList
      blanks
      token ")"
      pure listed
    else if ← consumeOneOf ["type", "schema"] then
      blanks
      token "="
      let _ ← text
      blanks
      pure {}
    else
      fail
  token "]"
  return extensions

/-- All attributes. Each takes at least one character, so that the length of the text bounds
the rounds. -/
def header : Nat → Extensions → Reader Extensions
  | 0, _ => fail
  | rounds + 1, known => do
      blanks
      if (← peek) == some '#' then
        header rounds (known.union (← headerItem))
      else
        return known

end Reader

def read {α : Type} (value : Reader α) (source : String) : Option α := do
  let text := source.toList
  let (extensions, rest) ← Reader.header (text.length + 1) {} {} nestingLimit text
  let (result, rest) ← value extensions nestingLimit rest
  match Reader.skipGap .outside rest with
  | some [] => some result
  | _ => none

end CooperativeTasks.Document
