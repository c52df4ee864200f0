import CooperativeTasks.LogLevel

set_option autoImplicit false

/-! Settings of the scheduler, the interpreter and the log. -/

namespace CooperativeTasks

structure SchedulerSettings where
  /-- The pause after a full sweep in which every queued task was blocked. -/
  idleBackoffMs : Nat := 1
  /-- Log every step at debug level instead of trace level. -/
  traceSteps : Bool := false
  deriving DecidableEq, Repr

structure InterpreterSettings where
  /-- Write printed lines to standard output as well as capturing them. -/
  echoOutput : Bool := true
  /-- Run one scheduler cycle after every main statement. -/
  backgroundCycles : Bool := true
  /-- How deeply synchronous calls may nest. -/
  maxCallDepth : Nat := 256
  deriving DecidableEq, Repr

structure LogSettings where
  level : LogLevel := .info
  deriving DecidableEq, Repr

structure Settings where
  scheduler : SchedulerSettings := {}
  interpreter : InterpreterSettings := {}
  log : LogSettings := {}
  deriving DecidableEq, Repr

namespace Settings

def quiet (settings : Settings) : Settings :=
  { settings with interpreter := { settings.interpreter with echoOutput := false } }

/-! ### Environment -/

def logVariable : String := "CBLOOP_LOG"

/-- Applies the level that the environment asks for. A level that is not understood is an
error, given as its message. -/
def applyEnvironment (lookup : String → Option String) (settings : Settings) :
    Except String Settings :=
  match lookup logVariable with
  | none => .ok settings
  | some text =>
      match LogLevel.parse text with
      | .ok level => .ok { settings with log := { settings.log with level } }
      | .error word =>
          .error ("Invalid value for " ++ logVariable ++ ": " ++ LogLevel.unknownMessage word)

/-- Appends a component to a path. An absolute component replaces it. -/
def joinPath (base component : String) : String :=
  if component.startsWith "/" then component
  else if base.isEmpty || base.endsWith "/" then base ++ component
  else base ++ "/" ++ component

/-- The user's settings directory: under the first of three variables that is set. -/
def directory? (lookup : String → Option String) : Option String :=
  match lookup "XDG_CONFIG_HOME" with
  | some base => some (joinPath base "cbloop")
  | none =>
      match lookup "HOME" with
      | some base => some (joinPath (joinPath base ".config") "cbloop")
      | none => (lookup "APPDATA").map fun base => joinPath base "cbloop"

def variableNames : List String := ["XDG_CONFIG_HOME", "HOME", "APPDATA", logVariable]

def path? (lookup : String → Option String) : Option String :=
  (directory? lookup).map fun directory => joinPath directory "config.ron"

/-! ### Text -/

def boolText (truth : Bool) : String := if truth then "true" else "false"

/-- The settings as a document that reads back as the same settings. -/
def document (settings : Settings) : String :=
  String.intercalate "\n"
    [ "(",
      "    scheduler: (",
      "        idle_backoff_ms: " ++ toString settings.scheduler.idleBackoffMs ++ ",",
      "        trace_steps: " ++ boolText settings.scheduler.traceSteps ++ ",",
      "    ),",
      "    interpreter: (",
      "        echo_output: " ++ boolText settings.interpreter.echoOutput ++ ",",
      "        background_cycles: " ++ boolText settings.interpreter.backgroundCycles ++ ",",
      "        max_call_depth: " ++ toString settings.interpreter.maxCallDepth ++ ",",
      "    ),",
      "    log: (",
      "        level: " ++ settings.log.level.name ++ ",",
      "    ),",
      ")" ]

end Settings

end CooperativeTasks
