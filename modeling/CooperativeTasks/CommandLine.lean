import CooperativeTasks.Document.Settings
import CooperativeTasks.FileTree
import CooperativeTasks.Log
import CooperativeTasks.Program.Summary
import CooperativeTasks.Report

set_option autoImplicit false

/-! The command line: what the arguments ask for, and what comes of it.

Everything here is a function of the arguments, the files and the environment. Options come
before the command. -/

namespace CooperativeTasks

def versionNumber : String := "0.13.2"

def displayName : String := "cbloop (Cb async runtime)"

/-! ### Errors with their causes -/

/-- An error: what failed, then why, each cause followed by its own. -/
structure Failure where
  causes : List String
  /-- The cause at the end is a document that could not be read. -/
  isMalformed : Bool := false

namespace Failure

def within (context : String) (failure : Failure) : Failure :=
  { failure with causes := context :: failure.causes }

def line (failure : Failure) : String := String.intercalate ": " failure.causes

/-- Continues a text of several lines at a margin. -/
def indent (margin text : String) : String := String.intercalate ("\n" ++ margin) (text.splitOn "\n")

/-- The first cause, and the others below it; several are numbered. -/
def report (failure : Failure) : String :=
  match failure.causes with
  | [] => "Error: \n"
  | [top] => "Error: " ++ top ++ "\n"
  | [top, only] => "Error: " ++ top ++ "\n\nCaused by:\n    " ++ indent "    " only ++ "\n"
  | top :: several =>
      let numbered := (List.range several.length).zip several |>.map fun (index, cause) =>
        "    " ++ toString index ++ ": " ++ indent "       " cause ++ "\n"
      "Error: " ++ top ++ "\n\nCaused by:\n" ++ String.join numbered

end Failure

/-! ### Programs from files -/

def LoadError.failure (error : LoadError) : Failure where
  causes := [error.message?.getD "Parse error"]
  isMalformed := error == .malformed

def loadLines (source : String) : List LogLine :=
  let started : LogLine :=
    ⟨.debug, "Parsing program (" ++ toString source.utf8ByteSize ++ " bytes)", []⟩
  match Program.load source with
  | .error _ => [started]
  | .ok program =>
      [ started,
        ⟨.debug, "Parsed " ++ toString program.functions.length ++ " functions, "
          ++ toString program.structs.length ++ " structs, " ++ toString program.main.length
          ++ " main statements", []⟩ ]

/-- What a command writes to the log, what it prints, and whether it failed. -/
structure Transcript (α : Type) where
  log : List LogLine := []
  output : List String := []
  result : Except Failure α

/-- Runs a program; the printed lines are there also after a fault. -/
def Program.transcript (program : Program) (settings : Settings) (tick : Nat) :
    Transcript RunReport :=
  let outcome := program.run settings tick
  let session := outcome.session
  let events := session.journal.reverse.filterMap (Event.logLine? settings.scheduler)
  let output := session.executor.output.toList
  match outcome with
  | .done _ _ =>
      { log := events ++ [⟨.debug, "Run complete: " ++ session.scheduler.statistics.text, []⟩]
        output
        result := .ok session.report }
  | .raised signal _ =>
      { log := events
        output
        result := .error ⟨["Program aborted", signal.toFault.message], false⟩ }
  | .halted _ =>
      { log := events
        output
        result := .error ⟨["Program aborted", "Halted"], false⟩ }

def runSource (source : String) (settings : Settings) (tick : Nat) : Transcript RunReport :=
  match Program.load source with
  | .error error =>
      { log := loadLines source
        result := .error (error.failure.within "Failed to parse program") }
  | .ok program =>
      let transcript := program.transcript settings tick
      { transcript with log := loadLines source ++ transcript.log }

def loadFile (files : Files) (path : String) : Transcript Program :=
  let context := "Failed to load program: " ++ path
  match files.read path with
  | .error problem =>
      { result :=
          .error ⟨[context, "Failed to read " ++ path ++ ": " ++ problem.message, problem.message], false⟩ }
  | .ok source =>
      { log := loadLines source
        result :=
          match Program.load source with
          | .error error => .error (error.failure.within context)
          | .ok program => .ok program }

def runFile (files : Files) (path : String) (settings : Settings) (tick : Nat) :
    Transcript RunReport :=
  let loaded := loadFile files path
  let log := ⟨.debug, "Running " ++ path, []⟩ :: loaded.log
  match loaded.result with
  | .error failure => { log, result := .error failure }
  | .ok program =>
      let transcript := program.transcript settings tick
      { transcript with log := log ++ transcript.log }

def checkFile (files : Files) (path : String) : Transcript ProgramSummary :=
  let loaded := loadFile files path
  { log := loaded.log
    result := loaded.result.map Program.summary }

/-! ### Settings from files and the environment -/

inductive SettingsError where
  | unreadable (path : String) (problem : FileError)
  | malformed
  | invalidVariable (message : String)
  deriving DecidableEq, Repr

def SettingsError.failure : SettingsError → Failure
  | .unreadable path problem =>
      ⟨["IO error on " ++ path ++ ": " ++ problem.message, problem.message], false⟩
  | .malformed => ⟨["Config parse error"], true⟩
  | .invalidVariable message => ⟨[message], false⟩

def settingsFile (files : Files) (path : String) : Except SettingsError Settings :=
  match files.read path with
  | .error problem => .error (.unreadable path problem)
  | .ok source =>
      match Document.readSettings? source with
      | none => .error .malformed
      | some settings => .ok settings

/-- The settings in force: from the named file, or else from the user's file if there is one,
or else the defaults; the environment has the last word. -/
def loadSettings (files : Files) (environment : String → Option String)
    (explicitPath : Option String) : Except SettingsError Settings := do
  let settings ←
    match explicitPath with
    | some path => settingsFile files path
    | none =>
        match Settings.path? environment with
        | none => pure {}
        | some path => if files.exists? path then settingsFile files path else pure {}
  match settings.applyEnvironment environment with
  | .ok settings => return settings
  | .error message => .error (.invalidVariable message)

/-! ### Arguments -/

inductive Command where
  | run (file : String)
  | check (file : String)
  | tasks (file : String)
  | version
  deriving DecidableEq, Repr

def Command.file? : Command → Option String
  | .run file => some file
  | .check file => some file
  | .tasks file => some file
  | .version => none

structure Options where
  verbose : Bool := false
  config : Option String := none
  deriving DecidableEq, Repr

inductive Request where
  | execute (options : Options) (command : Command)
  | showVersion
  | showHelp
  | misused
  deriving DecidableEq, Repr

/-- Whether an argument is an option rather than a value. A single dash is a value. -/
def isOption (argument : String) : Bool := argument.startsWith "-" && argument != "-"

def fileCommand (command : String → Command) (options : Options) : List String → Request
  | [] => .misused
  | first :: rest =>
      if first = "--" then
        match rest with
        | [file] => if file.isEmpty then .misused else .execute options (command file)
        | _ => .misused
      else if first = "-h" ∨ first = "--help" then .showHelp
      else if isOption first || first.isEmpty then .misused
      else
        match rest with
        | [] => .execute options (command first)
        | ["--"] => .execute options (command first)
        | next :: _ => if next = "-h" ∨ next = "--help" then .showHelp else .misused

def versionCommand (options : Options) : List String → Request
  | [] => .execute options .version
  | ["--"] => .execute options .version
  | first :: _ => if first = "-h" ∨ first = "--help" then .showHelp else .misused

def helpCommand : List String → Request
  | [] => .showHelp
  | [topic] =>
      if ["run", "check", "tasks", "version", "help"].contains topic then .showHelp else .misused
  | _ => .misused

def commandNamed (name : String) (options : Options) (rest : List String) : Request :=
  if name = "run" then fileCommand .run options rest
  else if name = "check" then fileCommand .check options rest
  else if name = "tasks" then fileCommand .tasks options rest
  else if name = "version" then versionCommand options rest
  else if name = "help" then helpCommand rest
  else .misused

/-- What follows from one argument in front of the command. -/
inductive ArgumentReading where
  /-- Go on with these options. -/
  | next (options : Options)
  /-- Go on once the following argument is taken as the settings file. -/
  | wantsConfig (options : Options)
  | stop (request : Request)

def takeConfig (options : Options) (path : String) : ArgumentReading :=
  if options.config.isSome || path.isEmpty then .stop .misused
  else .next { options with config := some path }

def takeVerbose (options : Options) : ArgumentReading :=
  if options.verbose then .stop .misused else .next { options with verbose := true }

def readShort : List Char → Options → ArgumentReading
  | [], options => .next options
  | 'v' :: rest, options =>
      match takeVerbose options with
      | .next options => readShort rest options
      | other => other
  | 'V' :: _, _ => .stop .showVersion
  | 'h' :: _, _ => .stop .showHelp
  | ['c'], options => .wantsConfig options
  | 'c' :: '=' :: path, options => takeConfig options (String.ofList path)
  | 'c' :: path, options => takeConfig options (String.ofList path)
  | _ :: _, _ => .stop .misused

def readLong (word : String) (options : Options) : ArgumentReading :=
  if word = "verbose" then takeVerbose options
  else if word = "version" then .stop .showVersion
  else if word = "help" then .stop .showHelp
  else if word = "config" then .wantsConfig options
  else if word.startsWith "config=" then
    takeConfig options (String.ofList (word.toList.drop 7))
  else .stop .misused

def readOption (argument : String) (options : Options) : ArgumentReading :=
  match argument.toList with
  | '-' :: '-' :: word => readLong (String.ofList word) options
  | _ :: letters => readShort letters options
  | [] => .stop .misused

def readArguments : Options → List String → Request
  | _, [] => .misused
  | options, argument :: rest =>
      if argument = "--" then .misused
      else if isOption argument then
        match readOption argument options with
        | .stop request => request
        | .next options => readArguments options rest
        | .wantsConfig options =>
            match rest with
            | [] => .misused
            | path :: rest =>
                if isOption path then .misused
                else
                  match takeConfig options path with
                  | .next options => readArguments options rest
                  | _ => .misused
      else commandNamed argument options rest

/-! ### Carrying out a command -/

structure ExitReport where
  code : Nat
  stdout : String := ""
  stderr : String := ""

def coloured (colour : Nat) (text : String) : String :=
  let escape := "\x1b["
  escape ++ "1m" ++ escape ++ toString colour ++ "m" ++ text ++ escape ++ "39m" ++ escape ++ "0m"

def lineText (lines : List String) : String := String.join (lines.map (· ++ "\n"))

def logText (level : LogLevel) (log : List LogLine) : String :=
  lineText ((LogLine.atLeast level log).map LogLine.text)

def summaryText (path : String) (summary : ProgramSummary) : String :=
  lineText
    [ coloured 32 "ok" ++ " " ++ path,
      "  structs:          " ++ toString summary.structs,
      "  functions:        " ++ toString summary.functions ++ " (" ++ toString summary.asyncFunctions
        ++ " async, " ++ toString summary.autoYieldFunctions ++ " auto-yield)",
      "  main statements:  " ++ toString summary.mainStatements,
      "  total statements: " ++ toString summary.totalStatements ]

/-- Every reading of the clock takes a microsecond, so that time passes for tasks that are never
idle. -/
def commandTick : Nat := 1000

def Command.carryOut (files : Files) (settings : Settings) (level : LogLevel) :
    Command → ExitReport
  | .run path =>
      let transcript := runFile files path settings commandTick
      let stdout := if settings.interpreter.echoOutput then lineText transcript.output else ""
      let log := logText level transcript.log
      match transcript.result with
      | .ok _ => { code := 0, stdout, stderr := log }
      | .error failure =>
          { code := 1, stdout
            stderr := log ++ coloured 31 "error:" ++ " " ++ failure.line ++ "\n" }
  | .check path =>
      let transcript := checkFile files path
      let log := logText level transcript.log
      match transcript.result with
      | .ok summary => { code := 0, stdout := summaryText path summary, stderr := log }
      | .error failure =>
          { code := 1, stderr := log ++ (failure.within ("Failed to check: " ++ path)).report }
  | .tasks path =>
      let transcript := runFile files path settings.quiet commandTick
      let log := logText level transcript.log
      match transcript.result with
      | .ok report => { code := 0, stdout := report.text ++ "\n", stderr := log }
      | .error failure =>
          { code := 1, stderr := log ++ (failure.within ("Failed to run: " ++ path)).report }
  | .version => { code := 0, stdout := displayName ++ " " ++ versionNumber ++ "\n" }

def helpText : String :=
  lineText
    [ displayName, "", "Usage: cbloop [OPTIONS] <COMMAND>", "", "Commands:",
      "  run      Run a program file",
      "  check    Load a program file and report what it declares",
      "  tasks    Run a program file and print the final task table as JSON",
      "  version  Print version information",
      "  help     Print this message or the help of the given subcommand(s)", "", "Options:",
      "  -v, --verbose        Enable verbose output (debug logging)",
      "  -c, --config <FILE>  Configuration file (RON)",
      "  -h, --help           Print help",
      "  -V, --version        Print version" ]

def Request.carryOut (files : Files) (environment : String → Option String) : Request → ExitReport
  | .misused => { code := 2, stderr := helpText }
  | .showHelp => { code := 0, stdout := helpText }
  | .showVersion => { code := 0, stdout := "cbloop " ++ versionNumber ++ "\n" }
  | .execute options command =>
      match loadSettings files environment options.config with
      | .error error =>
          { code := 1, stderr := (error.failure.within "Failed to load configuration").report }
      | .ok settings =>
          let level := if options.verbose then .debug else settings.log.level
          let banner :=
            if options.verbose then "cbloop version: " ++ versionNumber ++ "\nHost: linux\n" else ""
          let report := command.carryOut files settings level
          { report with stderr := banner ++ report.stderr }

/-- The files that carrying out a request may read. -/
def Request.paths (environment : String → Option String) : Request → List String
  | .execute options command =>
      (options.config <|> Settings.path? environment).toList ++ command.file?.toList
  | .misused => []
  | .showHelp => []
  | .showVersion => []

/-- The whole command: arguments in, exit code and texts out. -/
def commandLine (arguments : List String) (files : Files) (environment : String → Option String) :
    ExitReport :=
  (readArguments {} arguments).carryOut files environment

end CooperativeTasks
