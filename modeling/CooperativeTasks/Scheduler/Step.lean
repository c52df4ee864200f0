import CooperativeTasks.Interpreter.Basic

set_option autoImplicit false

/-! One turn of one task.

A step first looks whether the task may run at all: it must not wait for an unfinished task,
a passed deadline finishes it, and it must not be asleep. Only then does it execute the
statement at the task's counter, in the task's private scope and with its own positions. -/

namespace CooperativeTasks

/-- What a step puts aside while its statement runs. -/
structure StepFrame where
  depth : Nat
  currentTask : Option TaskId
  autoYield : Bool
  positions : Positions

namespace StepFrame

def enter (id : TaskId) (task : Task) (executor : Executor) : StepFrame × Executor :=
  ({ depth := executor.scopes.depth
     currentTask := executor.currentTask
     autoYield := executor.autoYield
     positions := executor.positions },
    { executor with
      currentTask := some id
      autoYield := task.autoYield
      scopes := executor.scopes.push (task.scope.getD {})
      positions := task.positions })

def leave (frame : StepFrame) (executor : Executor) : Executor :=
  { executor with
    scopes := executor.scopes.truncate frame.depth
    positions := frame.positions
    autoYield := frame.autoYield
    currentTask := frame.currentTask }

def scopeIn (frame : StepFrame) (executor : Executor) : Scope :=
  (executor.scopes.at? frame.depth).getD {}

end StepFrame

namespace Act

def modifyTask (id : TaskId) (change : Task → Task) : Act Unit :=
  updateScheduler (Scheduler.modifyTask id change)

def completeTask (id : TaskId) (payload : Value) : Act Unit :=
  modifyTask id (Task.complete payload)

def countBlocked : Act Unit :=
  count fun statistics => { statistics with stepsBlocked := statistics.stepsBlocked + 1 }

end Act

def timeoutError (id : TaskId) : Value :=
  Value.error "Timeout" ("Task " ++ toString id.index ++ " timed out")

/-- A task that has its scope: made from its arguments on the first step. -/
def Task.start (task : Task) : Task :=
  if task.isStarted then task
  else { task with scope := some task.initialScope, isStarted := true }

namespace Interpreter

/-- Executes a statement as a step of the task, with everything of the executor put aside and
put back. Gives the way the statement ended, and the scope and positions it left. -/
def execInTask (interpreter : Interpreter) (id : TaskId) (task : Task) (statement : Stmt) :
    Act (Except Signal Unit × Scope × Positions) := do
  Act.updateScheduler fun scheduler => { scheduler with active := id :: scheduler.active }
  let (frame, entered) := StepFrame.enter id task (← Act.executor)
  Act.updateExecutor fun _ => entered
  let outcome ← Act.attempt (interpreter.exec [.item task.counter] statement)
  Act.updateScheduler fun scheduler => { scheduler with active := scheduler.active.tail }
  let left ← Act.executor
  Act.updateExecutor frame.leave
  return (outcome, frame.scopeIn left, left.positions)

/-- Executes the statement at the task's counter. A task that is suspended always gets another
turn, even past its last statement; that turn finishes it. A fault takes away the saved
positions and leaves the task otherwise as it was. -/
def runStatement (interpreter : Interpreter) (id : TaskId) (reading : Nat) : Act StepStatus := do
  Act.modifyTask id Task.start
  match (← Act.scheduler).task? id with
  | none => return .done
  | some task =>
      match task.statements[task.counter]? with
      | none => do
          Act.completeTask id .void
          return .done
      | some statement => do
          Act.modifyTask id fun task => { task with positions := {}, steps := task.steps + 1 }
          Act.count fun statistics =>
            { statistics with stepsExecuted := statistics.stepsExecuted + 1 }
          Act.note (.stepped id task.counter reading)
          let (outcome, scope, positions) ← interpreter.execInTask id task statement
          match outcome with
          | .ok () => do
              Act.modifyTask id fun task =>
                { task with scope := some scope, positions, counter := task.counter + 1 }
              if task.statements.length ≤ task.counter + 1 then
                Act.completeTask id .void
                return .done
              else
                return .pending
          | .error (.suspend fromLoop) => do
              Act.modifyTask id fun task =>
                { task with
                  scope := some scope
                  positions
                  counter := if fromLoop then task.counter else task.counter + 1 }
              return .pending
          | .error (.returning value) => do
              Act.modifyTask id fun task => { task with scope := some scope }
              Act.completeTask id value
              return .done
          | .error signal => Act.fail signal.toFault

/-- A step of an unfinished task that waits for nothing. -/
def stepReady (interpreter : Interpreter) (id : TaskId) : Act StepStatus := do
  let now ← Act.readClock
  match (← Act.scheduler).task? id with
  | none => return .done
  | some task =>
      if task.deadline.any (· ≤ now) then
        Act.completeTask id (timeoutError id)
        Act.count fun statistics => { statistics with timeouts := statistics.timeouts + 1 }
        Act.note (.timedOut id)
        return .done
      else if task.wakeAt.any (now < ·) then
        Act.countBlocked
        return .blocked
      else
        Act.modifyTask id fun task => { task with wakeAt := none }
        match task.body with
        | some _ => interpreter.runStatement id now
        | none => do
            Act.completeTask id .void
            if task.wakeAt.isSome then Act.note (.timerFired id)
            return .done

/-- Advances a task by at most one top-level statement. A task that is unknown or finished is
done. -/
def step (interpreter : Interpreter) (id : TaskId) : Act StepStatus := do
  let scheduler ← Act.scheduler
  match scheduler.task? id with
  | none => return .done
  | some task =>
      if task.isFinished then
        return .done
      else
        match task.waitingFor with
        | none => interpreter.stepReady id
        | some awaited =>
            if scheduler.isFinished awaited then
              Act.updateScheduler (Scheduler.clearWait id)
              interpreter.stepReady id
            else
              Act.countBlocked
              Act.note (.stillWaiting id awaited)
              return .blocked

end Interpreter

end CooperativeTasks
