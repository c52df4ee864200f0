import CooperativeTasks.Scheduler.Publication
import CooperativeTasks.Scheduler.Step

set_option autoImplicit false

/-! Driving the scheduler: single cycles, until a task is finished, until nothing is left.

A cycle takes the front of the queue, gives it a step and puts it back unless it is done. A
task whose step is already on the call stack goes back untouched, so that a cycle inside a
step never enters a running task again. -/

namespace CooperativeTasks

namespace Interpreter

def requeue (id : TaskId) : Act Unit := do
  Act.updateScheduler (Scheduler.enqueue id)
  Act.note (.requeued id)

/-- One turn of the queue: the task that had it and what came of it. Nothing when nothing can
run, because the queue is empty or holds only tasks that are on the stack. -/
def cycle (interpreter : Interpreter) : Act (Option (TaskId × StepStatus)) := do
  match (← Act.scheduler).dequeue? with
  | none => return none
  | some (id, remaining) =>
      Act.updateScheduler fun _ => remaining
      Act.note (.dequeued id)
      if remaining.isActive id then
        requeue id
        if (← Act.scheduler).onlyActiveQueued then
          return none
        else
          return some (id, .blocked)
      else
        let status ← interpreter.step id
        match status with
        | .done => Act.finalize id
        | .pending => requeue id
        | .blocked => requeue id
        return some (id, status)

def runOneCycle (interpreter : Interpreter) : Act Unit := do
  let _ ← interpreter.cycle

/-- Pauses for as long as the settings say. -/
def idle (swept : List TaskId) : Act Unit := do
  Act.count fun statistics => { statistics with idleBackoffs := statistics.idleBackoffs + 1 }
  Act.advanceClock ((← Act.scheduler).settings.idleBackoffMs * nanosPerMilli)
  Act.note (.idled swept)

/-- Extends the run of tasks found blocked one after the other by one turn, and pauses when it
has come to the length of the queue. -/
def afterTurn (swept : List TaskId) (id : TaskId) (status : StepStatus) : Act (List TaskId) := do
  match status with
  | .blocked =>
      let swept := swept ++ [id]
      if (← Act.scheduler).queue.size ≤ swept.length then
        idle swept
        return []
      else
        return swept
  | .pending => return []
  | .done => return []

/-- One turn of a driver, from and to the run of blocked tasks; nothing when it is to stop. -/
def turn (interpreter : Interpreter) (swept : List TaskId) : Act (Option (List TaskId)) := do
  match ← interpreter.cycle with
  | none => return none
  | some (id, status) => return some (← afterTurn swept id status)

def run (interpreter : Interpreter) : Act Unit := do
  Act.note (.driving (← Act.scheduler).queue.size)
  Act.iterate interpreter.turns interpreter.turn []
  Act.note .drained

/-- As `turn`, stopping as soon as the task is finished. -/
def turnUntil (interpreter : Interpreter) (id : TaskId) (swept : List TaskId) :
    Act (Option (List TaskId)) := do
  if (← Act.scheduler).isFinished id then
    return none
  else
    interpreter.turn swept

/-- Runs cycles until the task is finished or nothing can run. In the second case this ends
quietly: whoever asked has to look at the task. -/
def runUntilComplete (interpreter : Interpreter) (id : TaskId) : Act Unit := do
  Act.iterate interpreter.turns (interpreter.turnUntil id) []
  if (← Act.scheduler).isFinished id then
    Act.finalize id
  else
    Act.note (.unfinished id)

end Interpreter

end CooperativeTasks
