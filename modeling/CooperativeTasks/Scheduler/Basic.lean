import CooperativeTasks.ReadyQueue
import CooperativeTasks.Settings
import CooperativeTasks.Task

set_option autoImplicit false

/-! The scheduler's state: the table of all tasks ever registered, the ready queue and the
tasks whose steps are on the call stack. -/

namespace CooperativeTasks

structure Statistics where
  tasksRegistered : Nat := 0
  /-- Tasks whose results have been published. -/
  tasksCompleted : Nat := 0
  /-- Steps that executed a statement. -/
  stepsExecuted : Nat := 0
  /-- Steps that found their task waiting or asleep. -/
  stepsBlocked : Nat := 0
  timeouts : Nat := 0
  /-- Pauses because nothing could run. -/
  idleBackoffs : Nat := 0
  deriving DecidableEq, Repr

structure Scheduler where
  settings : SchedulerSettings := {}
  /-- In order of registration; a task's identity is its place. -/
  tasks : List Task := []
  queue : ReadyQueue := {}
  ids : TaskIds := {}
  /-- The tasks whose step is on the call stack, innermost first. -/
  active : List TaskId := []
  statistics : Statistics := {}

inductive StepStatus where
  /-- A statement ran and the task has more to do. -/
  | pending
  /-- The task could not run: waiting, asleep or already on the stack. -/
  | blocked
  | done
  deriving DecidableEq, Repr

def StepStatus.name : StepStatus → String
  | .pending => "Pending"
  | .blocked => "Blocked"
  | .done => "Done"

namespace Scheduler

def task? (id : TaskId) (scheduler : Scheduler) : Option Task := scheduler.tasks[id.index]?

def modifyTask (id : TaskId) (change : Task → Task) (scheduler : Scheduler) : Scheduler :=
  { scheduler with tasks := scheduler.tasks.modify id.index change }

def isFinished (id : TaskId) (scheduler : Scheduler) : Bool :=
  match scheduler.task? id with
  | none => false
  | some task => task.isFinished

def hasQueued (scheduler : Scheduler) : Bool := !scheduler.queue.isEmpty

def isActive (id : TaskId) (scheduler : Scheduler) : Bool := id ∈ scheduler.active

/-- The queue holds nothing but tasks that are on the stack already. -/
def onlyActiveQueued (scheduler : Scheduler) : Bool :=
  scheduler.queue.ids.all fun id => scheduler.isActive id

def enqueue (id : TaskId) (scheduler : Scheduler) : Scheduler :=
  { scheduler with queue := scheduler.queue.push id }

def dequeue? (scheduler : Scheduler) : Option (TaskId × Scheduler) :=
  match scheduler.queue.pop? with
  | none => none
  | some (id, queue) => some (id, { scheduler with queue })

def countWith (count : Statistics → Statistics) (scheduler : Scheduler) : Scheduler :=
  { scheduler with statistics := count scheduler.statistics }

/-- Gives a task its identity and appends it to the table and to the queue. Its loops suspend
by themselves exactly if its body has no explicit yield. -/
def register (task : Task) (scheduler : Scheduler) : TaskId × Scheduler :=
  let (id, ids) := scheduler.ids.take
  let autoYield :=
    match task.body with
    | none => false
    | some function => !function.hasYield
  (id,
    { scheduler with
      tasks := scheduler.tasks ++ [{ task with id, autoYield }]
      queue := scheduler.queue.push id
      ids
      statistics :=
        { scheduler.statistics with
          tasksRegistered := scheduler.statistics.tasksRegistered + 1 } })

def futureValue? (id : TaskId) (scheduler : Scheduler) : Option Value :=
  (scheduler.task? id).map fun task => task.future.toValue (some id)

def waitOn (id awaited : TaskId) (scheduler : Scheduler) : Scheduler :=
  scheduler.modifyTask id fun task => { task with waitingFor := some awaited }

def clearWait (id : TaskId) (scheduler : Scheduler) : Scheduler :=
  scheduler.modifyTask id fun task => { task with waitingFor := none }

/-- Lets a task publish its future into a caller's variable. -/
def bindFuture (id : TaskId) (site : BindingSite) (scheduler : Scheduler) : Scheduler :=
  scheduler.modifyTask id fun task => { task with futureSite := some site }

/-- Sets the caller's variable that a method task writes its instance to. -/
def bindReceiver (id : TaskId) (site : BindingSite) (scheduler : Scheduler) : Scheduler :=
  scheduler.modifyTask id fun task =>
    { task with
      receiver := task.receiver.map fun receiver => { receiver with site := some site } }

end Scheduler

end CooperativeTasks
