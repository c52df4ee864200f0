import CooperativeTasks.Fault
import CooperativeTasks.Value

set_option autoImplicit false

/-! Places: a variable, or a field at some depth inside one.

A place is written with dots, `base.first.second`. The same text can also be the name of a
variable of its own: a method's scope holds an entry `self.count` next to `self`. -/

namespace CooperativeTasks

/-- The parts between dots; a text without a dot is one part. -/
def splitDots : List Char → List (List Char)
  | [] => [[]]
  | letter :: rest =>
      if letter = '.' then [] :: splitDots rest
      else
        match splitDots rest with
        | [] => [[letter]]
        | first :: others => (letter :: first) :: others

structure Place where
  base : String
  path : List String
  deriving DecidableEq, Repr

def Place.ofName (name : String) : Place :=
  match splitDots name.toList with
  | [] => ⟨name, []⟩
  | base :: path => ⟨String.ofList base, path.map String.ofList⟩

def selfName : String := "self"

/-- The name of the entry beside variable `base` that holds its field `member`. -/
def memberName (base member : String) : String := base ++ "." ++ member

/-- The field that a name directly under `self` stands for. -/
def selfMember? (name : String) : Option String :=
  match Place.ofName name with
  | ⟨base, [member]⟩ => if base = selfName then some member else none
  | _ => none

/-- The entries of a scope that hold fields of `self`, under the names of the fields. -/
def selfMembers (bindings : List (String × Value)) : List (String × Value) :=
  bindings.filterMap fun (name, value) => (selfMember? name).map fun member => (member, value)

namespace Value

def read? : List String → Value → Option Value
  | [], value => some value
  | name :: rest, value => (value.field? name).bind (read? rest)

/-- Writes the field at the end of a path. The fields on the way have to exist; the last one
is added if it does not. -/
def write (slot : Value) : List String → Value → Except Fault Value
  | [], value => .ok value
  | name :: rest, value =>
      match slot with
      | .struct typeName fields =>
          match rest with
          | [] => .ok (.struct typeName (Bindings.insert name value fields))
          | _ :: _ =>
              match Bindings.get? name fields with
              | none => .error (.fieldNotFound name)
              | some inner =>
                  match inner.write rest value with
                  | .error fault => .error fault
                  | .ok updated => .ok (.struct typeName (Bindings.replace name updated fields))
      | _ => .error (.typeError ("cannot assign to field `" ++ name ++ "` of a non-struct"))

/-- A struct with every one of `members` written into it; any other value as it is. -/
def mergeMembers (members : List (String × Value)) : Value → Value
  | .struct typeName fields => .struct typeName (Bindings.insertAll members fields)
  | other => other

end Value

end CooperativeTasks
