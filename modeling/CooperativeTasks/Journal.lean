import CooperativeTasks.TaskId

set_option autoImplicit false

/-! What happened during a session, event by event.

Some events have a line in the log; the turns of the queue do not and are recorded so that a
whole run can be followed afterwards. -/

namespace CooperativeTasks

inductive Event where
  | programLoaded (functions structs : Nat)
  | mainStarted (statements : Nat)
  | programFinished (tasks : Nat)
  | registered (task : TaskId) (name : String) (autoYield : Bool)
  | asleep (task : TaskId) (millis : Nat)
  | timeoutArmed (task : TaskId) (millis : Nat)
  | driving (queued : Nat)
  | drained
  | dequeued (task : TaskId)
  | requeued (task : TaskId)
  | stillWaiting (task awaited : TaskId)
  | timerFired (task : TaskId)
  | timedOut (task : TaskId)
  /-- A statement of the task is about to run, at the given reading of the clock. -/
  | stepped (task : TaskId) (counter reading : Nat)
  /-- A pause, after the named tasks were found blocked one after the other. -/
  | idled (swept : List TaskId)
  | unfinished (task : TaskId)
  | futureSiteGone (task : TaskId) (name : String)
  | receiverSiteGone (task : TaskId) (name : String)
  | finalized (task : TaskId)
  | called (function : String) (depth : Nat)
  | awaiting (awaited : TaskId) (waiter : Option TaskId)
  | awaitEnded (awaited : TaskId) (waiter : Option TaskId)
  | loopSuspended (task : Option TaskId)
  deriving DecidableEq, Repr

end CooperativeTasks
