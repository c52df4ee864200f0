import CooperativeTasks.Program.Tree

set_option autoImplicit false

/-! What a program must meet before it runs: every owner is a declared struct, and no two
functions share a qualified name. -/

namespace CooperativeTasks

inductive LoadError where
  /-- The text is not a program document. -/
  | malformed
  | duplicateFunction (name : String)
  | unknownOwner (method owner : String)
  deriving DecidableEq, Repr

/-- No text for a malformed document: which part of it is wrong is not recorded. -/
def LoadError.message? : LoadError → Option String
  | .malformed => none
  | .duplicateFunction name => some ("Duplicate function: " ++ name)
  | .unknownOwner method owner =>
      some ("Method " ++ method ++ " belongs to undeclared struct " ++ owner)

/-- What is wrong with a function, given the qualified names before it. -/
def FunctionDecl.problem? (owners earlier : List String) (function : FunctionDecl) :
    Option LoadError :=
  match function.owner with
  | some owner =>
      if owner ∈ owners then
        if function.qualifiedName ∈ earlier then some (.duplicateFunction function.qualifiedName)
        else none
      else some (.unknownOwner function.name owner)
  | none =>
      if function.qualifiedName ∈ earlier then some (.duplicateFunction function.qualifiedName)
      else none

/-- Reports the first function, in declaration order, that breaks a rule. -/
def validateFrom (owners : List String) : List String → List FunctionDecl → Except LoadError Unit
  | _, [] => .ok ()
  | earlier, function :: rest =>
      match function.problem? owners earlier with
      | some problem => .error problem
      | none => validateFrom owners (function.qualifiedName :: earlier) rest

def Program.validate (program : Program) : Except LoadError Unit :=
  validateFrom (program.structs.map StructDecl.name) [] program.functions

end CooperativeTasks
