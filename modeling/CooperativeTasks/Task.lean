import CooperativeTasks.Future
import CooperativeTasks.Positions
import CooperativeTasks.Scope

set_option autoImplicit false

/-! Tasks: everything needed to resume one asynchronous call.

A task has a body, evaluated arguments, a program counter into the top-level statements of the
body, a private scope that is saved between steps and a completion slot. A task without a
body serves as a timer. -/

namespace CooperativeTasks

inductive TaskState where
  | notStarted
  | runnable
  | waiting
  | sleeping
  | finished
  deriving DecidableEq, Repr

def TaskState.name : TaskState → String
  | .notStarted => "NotStarted"
  | .runnable => "Runnable"
  | .waiting => "Waiting"
  | .sleeping => "Sleeping"
  | .finished => "Finished"

/-- A caller's variable, pinned to the scope that held it. -/
structure BindingSite where
  name : String
  frame : ScopeId
  /-- The task whose step was running, if any: `frame` may be its private scope. -/
  owner : Option TaskId
  deriving DecidableEq, Repr

/-- The instance on which an asynchronous method was called, captured by value. -/
structure Receiver where
  value : Value
  /-- The caller's variable that is written when the task is finished. -/
  site : Option BindingSite

structure Task where
  id : TaskId := ⟨0⟩
  name : String
  body : Option FunctionDecl
  args : List Value := []
  receiver : Option Receiver := none
  /-- The index of the statement that the next step executes. -/
  counter : Nat := 0
  scope : Option Scope := none
  positions : Positions := {}
  isStarted : Bool := false
  isFinished : Bool := false
  waitingFor : Option TaskId := none
  /-- In nanoseconds of the session's clock, as is the deadline. -/
  wakeAt : Option Nat := none
  deadline : Option Nat := none
  /-- Loops suspend after every iteration. -/
  autoYield : Bool := false
  result : Option Value := none
  resultKind : Option ValueKind := none
  future : Future := .pending
  futureSite : Option BindingSite := none
  /-- The results have been written to the caller's variables. -/
  isPublished : Bool := false
  /-- How many steps executed a statement of this task. -/
  steps : Nat := 0

namespace Task

def ofFunction (function : FunctionDecl) (args : List Value) : Task where
  name := function.qualifiedName
  body := some function
  args := args

def timer : Task where
  name := "sleep"
  body := none

def withReceiver (value : Value) (site : Option BindingSite) (task : Task) : Task :=
  { task with receiver := some ⟨value, site⟩ }

def statements (task : Task) : List Stmt :=
  match task.body with
  | none => []
  | some function => function.body

def state (task : Task) : TaskState :=
  if task.isFinished then .finished
  else if task.waitingFor.isSome then .waiting
  else if task.wakeAt.isSome then .sleeping
  else if task.isStarted then .runnable
  else .notStarted

/-- The fields of an instance, each under its name below `self`. -/
def selfEntries (receiver : Value) : List (String × Value) :=
  (receiver.fields?.getD []).map fun (name, value) => (memberName selfName name, value)

/-- The private scope of a task that has not started: parameters, then `self` and its
fields. -/
def initialScope (task : Task) : Scope :=
  let params :=
    match task.body with
    | none => []
    | some function => function.params.zip task.args
  let instanceEntries :=
    match task.receiver with
    | none => []
    | some receiver => (selfName, receiver.value) :: selfEntries receiver.value
  ({ } : Scope).defineAll (params ++ instanceEntries)

/-- The value that a payload puts into the completion slot: a future is opened once, so that slots
do not hold futures that tasks pass on. -/
def slotValue (payload : Value) : Value :=
  match Future.ofValue? payload with
  | some inner => inner.value
  | none => payload

def complete (payload : Value) (task : Task) : Task :=
  { task with
    isFinished := true
    waitingFor := none
    wakeAt := none
    result := some payload
    resultKind := some payload.kind
    future := task.future.resolve (slotValue payload) }

/-- The fields of `self` as the saved scope has them. -/
def receiverMembers (task : Task) : List (String × Value) :=
  match task.scope with
  | none => []
  | some scope => selfMembers scope.bindings

end Task

end CooperativeTasks
