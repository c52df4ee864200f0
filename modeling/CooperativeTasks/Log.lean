import CooperativeTasks.Journal
import CooperativeTasks.Scheduler.Basic

set_option autoImplicit false

/-! Log lines.

A line is the level, right-aligned, a message and named fields. Which events have a line, and
at which level, is fixed here; whether it is written depends on the level that was asked
for. -/

namespace CooperativeTasks

structure LogLine where
  level : LogLevel
  message : String
  fields : List (String × String) := []

/-- Controls that a terminal acts upon. Tabs and line ends are not among them. -/
def isTerminalControl (letter : Char) : Bool :=
  [0x07, 0x08, 0x0C, 0x1B, 0x7F].contains letter.toNat

/-- A character of a message: what a terminal would act upon is written as its number. -/
def messageCharacter (letter : Char) : String :=
  let number := letter.toNat
  if isTerminalControl letter then
    "\\x" ++ String.ofList ((Nat.toDigits 16 (0x100 + number)).drop 1)
  else if 0x80 ≤ number ∧ number ≤ 0x9F then
    "\\u\x7b" ++ String.ofList (Nat.toDigits 16 number) ++ "\x7d"
  else letter.toString

namespace LogLine

def text (line : LogLine) : String :=
  let label := line.level.label
  let margin := String.ofList (List.replicate (5 - label.length) ' ')
  let fields := line.fields.map fun (name, value) => " " ++ name ++ "=" ++ value
  let message := line.message.toList.map messageCharacter
  margin ++ label ++ " " ++ String.join message ++ String.join fields

def atLeast (level : LogLevel) (lines : List LogLine) : List LogLine :=
  lines.filter fun line => decide (level.severity ≤ line.level.severity)

end LogLine

def optionalTaskText : Option TaskId → String
  | none => "None"
  | some task => "Some(TaskId(" ++ toString task.index ++ "))"

/-- A fraction of a thousand after a point, without zeros at the end. -/
def thousandthsText (thousandths : Nat) : String :=
  let digits := (Nat.repr (1000 + thousandths)).toList.drop 1
  match (digits.reverse.dropWhile (· == '0')).reverse with
  | [] => ""
  | kept => "." ++ String.ofList kept

/-- A duration in the largest unit that it fills: seconds or milliseconds. -/
def durationText (millis : Nat) : String :=
  if millis = 0 then "0ns"
  else if millis < 1000 then toString millis ++ "ms"
  else toString (millis / 1000) ++ thousandthsText (millis % 1000) ++ "s"

def Statistics.text (statistics : Statistics) : String :=
  "SchedulerStats \x7b tasks_registered: " ++ toString statistics.tasksRegistered
    ++ ", tasks_completed: " ++ toString statistics.tasksCompleted
    ++ ", steps_executed: " ++ toString statistics.stepsExecuted
    ++ ", steps_blocked: " ++ toString statistics.stepsBlocked
    ++ ", timeouts: " ++ toString statistics.timeouts
    ++ ", idle_backoffs: " ++ toString statistics.idleBackoffs ++ " \x7d"

def Event.logLine? (settings : SchedulerSettings) : Event → Option LogLine
  | .programLoaded functions structs =>
      some ⟨.debug, "program loaded",
        [("functions", toString functions), ("structs", toString structs)]⟩
  | .mainStarted statements =>
      some ⟨.info, "running main", [("statements", toString statements)]⟩
  | .programFinished tasks => some ⟨.info, "program finished", [("tasks", toString tasks)]⟩
  | .registered task name autoYield =>
      some ⟨.debug, "registered task",
        [("task", task.text), ("name", name), ("auto_yield", Settings.boolText autoYield)]⟩
  | .asleep task millis =>
      some ⟨.trace, "sleeping", [("task", task.text), ("duration", durationText millis)]⟩
  | .timeoutArmed task millis =>
      some ⟨.trace, "timeout armed", [("task", task.text), ("duration", durationText millis)]⟩
  | .driving queued => some ⟨.debug, "scheduler run", [("queued", toString queued)]⟩
  | .drained => some ⟨.debug, "scheduler drained", []⟩
  | .dequeued _ => none
  | .requeued _ => none
  | .stillWaiting task awaited =>
      some ⟨.trace, "still waiting", [("task", task.text), ("awaiting", awaited.text)]⟩
  | .timerFired task => some ⟨.trace, "timer fired", [("task", task.text)]⟩
  | .timedOut task => some ⟨.debug, "timed out", [("task", task.text)]⟩
  | .stepped task counter _ =>
      some ⟨if settings.traceSteps then .debug else .trace, "step",
        [("task", task.text), ("pc", toString counter)]⟩
  | .idled _ => none
  | .unfinished task =>
      some ⟨.warn, "ready queue drained before the task finished", [("task", task.text)]⟩
  | .futureSiteGone task name =>
      some ⟨.trace, "future binding no longer in scope", [("task", task.text), ("binding", name)]⟩
  | .receiverSiteGone task name =>
      some ⟨.trace, "receiver scope is gone", [("task", task.text), ("receiver", name)]⟩
  | .finalized task => some ⟨.debug, "finalized", [("task", task.text)]⟩
  | .called function depth =>
      some ⟨.trace, "call", [("function", function), ("depth", toString depth)]⟩
  | .awaiting awaited waiter =>
      some ⟨.debug, "await", [("awaiting", awaited.text), ("by", optionalTaskText waiter)]⟩
  | .awaitEnded _ _ => none
  | .loopSuspended task =>
      some ⟨.trace, "loop iteration suspend", [("task", optionalTaskText task)]⟩

end CooperativeTasks
