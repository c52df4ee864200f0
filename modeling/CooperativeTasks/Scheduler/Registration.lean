import CooperativeTasks.Session

set_option autoImplicit false

/-! Registering tasks and arming their timers. -/

namespace CooperativeTasks

namespace Executor

def siteIn (name : String) (executor : Executor) (frame : ScopeId) : BindingSite :=
  ⟨name, frame, executor.currentTask⟩

/-- Pins a variable to the innermost scope that binds it. -/
def site? (name : String) (executor : Executor) : Option BindingSite :=
  (executor.scopes.frameOf? name).map (executor.siteIn name)

/-- Pins a variable to the innermost scope, where a `let` defines it. -/
def localSite? (name : String) (executor : Executor) : Option BindingSite :=
  executor.scopes.current.id.map (executor.siteIn name)

end Executor

namespace Act

def register (task : Task) : Act TaskId := do
  let (id, registered) := (← scheduler).register task
  updateScheduler fun _ => registered
  let autoYield := (registered.task? id).any Task.autoYield
  note (.registered id task.name autoYield)
  return id

def spawn (function : FunctionDecl) (args : List Value) : Act TaskId :=
  register (.ofFunction function args)

/-- Puts a task to sleep. The clock is read for an unknown task too. -/
def sleepTask (id : TaskId) (millis : Nat) : Act Unit := do
  let wakeAt := (← readClock) + millis * nanosPerMilli
  if ((← scheduler).task? id).isSome then
    updateScheduler fun scheduler =>
      scheduler.modifyTask id fun task => { task with wakeAt := some wakeAt }
    note (.asleep id millis)

/-- Sets a task's deadline: the first step at or after it finishes the task with an error.
The clock is read for an unknown task too. -/
def setTimeout (id : TaskId) (millis : Nat) : Act Unit := do
  let deadline := (← readClock) + millis * nanosPerMilli
  if ((← scheduler).task? id).isSome then
    updateScheduler fun scheduler =>
      scheduler.modifyTask id fun task => { task with deadline := some deadline }
    note (.timeoutArmed id millis)

/-- Registers a task without a body that finishes after so many milliseconds. -/
def spawnTimer (millis : Nat) : Act TaskId := do
  let id ← register .timer
  sleepTask id millis
  return id

def futureValue (id : TaskId) : Act Value := do
  match (← scheduler).futureValue? id with
  | some value => return value
  | none => fail (.unknownTask id)

end Act

end CooperativeTasks
