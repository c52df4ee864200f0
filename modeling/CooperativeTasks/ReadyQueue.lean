import CooperativeTasks.TaskId

set_option autoImplicit false

/-! The ready queue: first in, first out. A task that is still pending after its turn goes to
the back, which interleaves the tasks round-robin. -/

namespace CooperativeTasks

structure ReadyQueue where
  /-- The task to run next comes first. -/
  ids : List TaskId := []
  deriving DecidableEq, Repr

namespace ReadyQueue

def push (task : TaskId) (queue : ReadyQueue) : ReadyQueue := ⟨queue.ids ++ [task]⟩

def pop? (queue : ReadyQueue) : Option (TaskId × ReadyQueue) :=
  match queue.ids with
  | [] => none
  | front :: rest => some (front, ⟨rest⟩)

def contains (task : TaskId) (queue : ReadyQueue) : Bool := task ∈ queue.ids

def size (queue : ReadyQueue) : Nat := queue.ids.length

def isEmpty (queue : ReadyQueue) : Bool := queue.ids.isEmpty

end ReadyQueue

end CooperativeTasks
