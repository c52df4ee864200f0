import CooperativeTasks.Document.Program
import CooperativeTasks.Settings

set_option autoImplicit false

/-! Settings as documents. A field that is left out keeps its default. -/

namespace CooperativeTasks.Document

inductive SettingsPart where
  | flag (value : Bool)
  | number (value : Nat)
  | level (value : LogLevel)
  | scheduler (settings : SchedulerSettings)
  | interpreter (settings : InterpreterSettings)
  | log (settings : LogSettings)

namespace Reader

open Grammar (full)

def settingsFlag : Reader SettingsPart := do return .flag (← bool)

def settingsNumber : Reader SettingsPart := do return .number (← natural)

def settingsLevel : Reader SettingsPart :=
  variant (LogLevel.all.map fun level => (level.name, return .level level))

/-- Settings with the fields that were found written over the defaults. -/
def settingsOf {α : Type} (change : String → SettingsPart → α → α) (defaults : α)
    (parts : List (String × SettingsPart)) : α :=
  parts.foldl (fun settings (name, value) => change name value settings) defaults

def schedulerSettings : Reader SchedulerSettings := do
  let parts ←
    struct "SchedulerConfig"
      [("idle_backoff_ms", settingsNumber), ("trace_steps", settingsFlag)] full.skip
  return settingsOf
    (fun _ part settings =>
      match part with
      | .number idleBackoffMs => { settings with idleBackoffMs }
      | .flag traceSteps => { settings with traceSteps }
      | _ => settings)
    {} parts

def interpreterSettings : Reader InterpreterSettings := do
  let parts ←
    struct "InterpreterConfig"
      [ ("echo_output", settingsFlag), ("background_cycles", settingsFlag),
        ("max_call_depth", settingsNumber) ]
      full.skip
  return settingsOf
    (fun name part settings =>
      match part with
      | .number maxCallDepth => { settings with maxCallDepth }
      | .flag value =>
          if name = "echo_output" then { settings with echoOutput := value }
          else { settings with backgroundCycles := value }
      | _ => settings)
    {} parts

def logSettings : Reader LogSettings := do
  let parts ← struct "LogConfig" [("level", settingsLevel)] full.skip
  return settingsOf
    (fun _ part settings =>
      match part with
      | .level level => { settings with level }
      | _ => settings)
    {} parts

def settings : Reader Settings := do
  let parts ←
    struct "RuntimeConfig"
      [ ("scheduler", do return .scheduler (← schedulerSettings)),
        ("interpreter", do return .interpreter (← interpreterSettings)),
        ("log", do return .log (← logSettings)) ]
      full.skip
  return settingsOf
    (fun _ part settings =>
      match part with
      | .scheduler scheduler => { settings with scheduler }
      | .interpreter interpreter => { settings with interpreter }
      | .log log => { settings with log }
      | _ => settings)
    {} parts

end Reader

def readSettings? (source : String) : Option Settings := read Reader.settings source

end CooperativeTasks.Document
