import CooperativeTasks.Place

set_option autoImplicit false

/-! Scopes and the stack of scopes.

A scope gets its identity when it is first pushed and keeps it when it is saved and pushed
again, so that a binding can be found by the scope that held it, on the stack or off it. The
outermost scope holds the globals and is never popped. -/

namespace CooperativeTasks

structure ScopeId where
  number : Nat
  deriving DecidableEq, Repr

structure Scope where
  id : Option ScopeId := none
  bindings : List (String × Value) := []

namespace Scope

def get? (name : String) (scope : Scope) : Option Value := Bindings.get? name scope.bindings

def contains (name : String) (scope : Scope) : Bool := Bindings.contains name scope.bindings

def define (name : String) (value : Value) (scope : Scope) : Scope :=
  { scope with bindings := Bindings.insert name value scope.bindings }

def defineAll (entries : List (String × Value)) (scope : Scope) : Scope :=
  { scope with bindings := Bindings.insertAll entries scope.bindings }

/-- Overwrites a binding that the scope already holds, and does nothing otherwise. -/
def assignExisting (name : String) (value : Value) (scope : Scope) : Scope :=
  { scope with bindings := Bindings.replace name value scope.bindings }

def remove (name : String) (scope : Scope) : Scope :=
  { scope with bindings := Bindings.erase name scope.bindings }

def holds (id : ScopeId) (scope : Scope) : Bool := scope.id == some id

end Scope

/-- The scopes above the global one, innermost first, and the next identity to hand out. -/
structure ScopeStack where
  global : Scope
  inner : List Scope
  nextId : Nat

namespace ScopeStack

def initial : ScopeStack where
  global := { id := some ⟨0⟩ }
  inner := []
  nextId := 1

/-- All scopes, innermost first: the order in which names are looked up. -/
def frames (stack : ScopeStack) : List Scope := stack.inner ++ [stack.global]

def depth (stack : ScopeStack) : Nat := stack.inner.length + 1

/-- Pushes a scope, handing out an identity if it has none. -/
def push (scope : Scope) (stack : ScopeStack) : ScopeStack :=
  match scope.id with
  | some _ => { stack with inner := scope :: stack.inner }
  | none =>
      { stack with
        inner := { scope with id := some ⟨stack.nextId⟩ } :: stack.inner
        nextId := stack.nextId + 1 }

def pop? (stack : ScopeStack) : Option (Scope × ScopeStack) :=
  match stack.inner with
  | [] => none
  | innermost :: rest => some (innermost, { stack with inner := rest })

/-- Drops innermost scopes until `depth` remain; the global one always does. -/
def truncate (depth : Nat) (stack : ScopeStack) : ScopeStack :=
  { stack with inner := stack.inner.drop (stack.inner.length - (depth - 1)) }

/-- The scope at an index, counted from the global one at 0. -/
def at? (index : Nat) (stack : ScopeStack) : Option Scope := stack.frames.reverse[index]?

def current (stack : ScopeStack) : Scope := stack.inner.head?.getD stack.global

def modifyCurrent (change : Scope → Scope) (stack : ScopeStack) : ScopeStack :=
  match stack.inner with
  | [] => { stack with global := change stack.global }
  | innermost :: rest => { stack with inner := change innermost :: rest }

def modifyGlobal (change : Scope → Scope) (stack : ScopeStack) : ScopeStack :=
  { stack with global := change stack.global }

def define (name : String) (value : Value) (stack : ScopeStack) : ScopeStack :=
  stack.modifyCurrent (Scope.define name value)

/-! ### Finding a scope, innermost first -/

def modifyFirstIn? (test : Scope → Bool) (change : Scope → Scope) :
    List Scope → Option (List Scope)
  | [] => none
  | scope :: rest =>
      if test scope then some (change scope :: rest)
      else (modifyFirstIn? test change rest).map (scope :: ·)

def modifyFirst? (test : Scope → Bool) (change : Scope → Scope) (stack : ScopeStack) :
    Option ScopeStack :=
  match modifyFirstIn? test change stack.inner with
  | some inner => some { stack with inner }
  | none => if test stack.global then some { stack with global := change stack.global } else none

def lookup? (name : String) (stack : ScopeStack) : Option Value :=
  stack.frames.findSome? (Scope.get? name)

/-- The identity of the innermost scope that binds `name`. -/
def frameOf? (name : String) (stack : ScopeStack) : Option ScopeId :=
  (stack.frames.find? (Scope.contains name)).bind Scope.id

def frame? (id : ScopeId) (stack : ScopeStack) : Option Scope :=
  stack.frames.find? (Scope.holds id)

def modifyFrame? (id : ScopeId) (change : Scope → Scope) (stack : ScopeStack) :
    Option ScopeStack :=
  stack.modifyFirst? (Scope.holds id) change

def assign? (name : String) (value : Value) (stack : ScopeStack) : Option ScopeStack :=
  stack.modifyFirst? (Scope.contains name) (Scope.assignExisting name value)

/-- As `assign?`; an unbound name leaves the stack as it is. -/
def assignExisting (name : String) (value : Value) (stack : ScopeStack) : ScopeStack :=
  (stack.assign? name value).getD stack

/-! ### Places -/

/-- The value at a place: the binding of the whole name if there is one, otherwise the field
at the end of its path. -/
def readPlace (name : String) (stack : ScopeStack) : Except Fault Value :=
  match stack.lookup? name with
  | some value => .ok value
  | none =>
      let place := Place.ofName name
      match place.path with
      | [] => .error (.undefinedVariable name)
      | _ :: _ =>
          match stack.lookup? place.base with
          | none => .error (.undefinedVariable place.base)
          | some base =>
              match base.read? place.path with
              | none => .error (.fieldNotFound name)
              | some value => .ok value

/-- Writes to a place: the binding of the whole name if there is one, and the field at the end
of its path if the base is bound. The stack is also given back with a fault, since the first
of the two may have been written by then. -/
def writePlace (name : String) (value : Value) (stack : ScopeStack) :
    ScopeStack × Except Fault Unit :=
  let place := Place.ofName name
  match place.path with
  | [] =>
      match stack.assign? name value with
      | some updated => (updated, .ok ())
      | none => (stack, .error (.undefinedVariable name))
  | _ :: _ =>
      let flattened := stack.assign? name value
      let stack := flattened.getD stack
      match stack.lookup? place.base with
      | some base =>
          match base.write place.path value with
          | .ok updated => (stack.assignExisting place.base updated, .ok ())
          | .error fault => (stack, .error fault)
      | none =>
          if flattened.isSome then (stack, .ok ())
          else (stack, .error (.undefinedVariable place.base))

end ScopeStack

end CooperativeTasks
