import CooperativeTasks.Bindings
import CooperativeTasks.Program.Tree

set_option autoImplicit false

/-! Where a suspended task resumes inside nested statements.

A statement list is known by the path that leads to it from the statement that a task, or the
top level, is executing. Lists without statements are all known by the same key: there is no
place in them to resume at, so nothing tells them apart. -/

namespace CooperativeTasks

/-- One step of a path into nested statements. -/
inductive Turn where
  | item (index : Nat)
  | thenBranch
  | elseBranch
  | body
  | init
  | update
  deriving DecidableEq, Repr

/-- The way into nested statements, innermost step first. -/
abbrev Path := List Turn

inductive ListKey where
  | empty
  | located (path : Path)
  deriving DecidableEq, Repr

def ListKey.of (path : Path) (statements : List Stmt) : ListKey :=
  if statements.isEmpty then .empty else .located path

structure Positions where
  /-- The index at which each suspended list goes on. -/
  resume : List (ListKey × Nat) := []
  /-- The bodies of the loops that are past their initialiser. -/
  entered : List ListKey := []
  deriving DecidableEq, Repr

namespace Positions

def get? (key : ListKey) (positions : Positions) : Option Nat := Bindings.get? key positions.resume

def set (key : ListKey) (index : Nat) (positions : Positions) : Positions :=
  { positions with resume := Bindings.insert key index positions.resume }

def clear (key : ListKey) (positions : Positions) : Positions :=
  { positions with resume := Bindings.erase key positions.resume }

def enterLoop (key : ListKey) (positions : Positions) : Positions :=
  { positions with
    entered := if key ∈ positions.entered then positions.entered else key :: positions.entered }

def loopEntered (key : ListKey) (positions : Positions) : Bool := key ∈ positions.entered

def exitLoop (key : ListKey) (positions : Positions) : Positions :=
  { positions with entered := positions.entered.erase key }

def size (positions : Positions) : Nat := positions.resume.length

def isEmpty (positions : Positions) : Bool := positions.resume.isEmpty && positions.entered.isEmpty

end Positions

end CooperativeTasks
