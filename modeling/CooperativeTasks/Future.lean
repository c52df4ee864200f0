import CooperativeTasks.TaskId
import CooperativeTasks.Value

set_option autoImplicit false

/-! Completion slots.

A slot becomes ready once and then keeps its value. Programs see it as a struct of type
`Future`, which also names the task that the slot belongs to. -/

namespace CooperativeTasks

structure Future where
  value : Value := .void
  isReady : Bool := false

namespace Future

def typeName : String := "Future"

def pending : Future := {}

def ready (value : Value) : Future := { value, isReady := true }

/-- Fills the slot; a slot that is ready stays as it is. -/
def resolve (value : Value) (future : Future) : Future :=
  if future.isReady then future else ready value

def toValue (task : Option TaskId) (future : Future) : Value :=
  let fields := [("value", future.value), ("is_ready", .bool future.isReady)]
  match task with
  | none => .struct typeName fields
  | some id => .struct typeName (fields ++ [("task_id", .int (Int64.ofNat id.index))])

/-- Reads a struct of type `Future` back; a missing value is void and a missing mark is not
ready. -/
def ofValue? (value : Value) : Option Future :=
  if value.isStructOf typeName then
    some
      { value := (value.field? "value").getD .void
        isReady := ((value.field? "is_ready").bind Value.toBool?).getD false }
  else none

def taskOf? (value : Value) : Option TaskId :=
  if value.isStructOf typeName then
    match (value.field? "task_id").bind Value.toInt? with
    | none => none
    | some number => if number < 0 then none else some ⟨number.toInt.toNat⟩
  else none

end Future

end CooperativeTasks
