import CooperativeTasks.CommandLine

set_option autoImplicit false

/-! The command-line program. It reads the variables and files that a request depends on,
carries the request out and writes what came of it. -/

namespace CooperativeTasks

/-- The system's number for a directory where a file was expected. -/
def isDirectoryCode : UInt32 := 21

/-- The system's number for a name that is too long. -/
def nameTooLongCode : UInt32 := 36

/-- Whether a problem has a number, which opening a file negates and reading it does not. -/
def isCode (code found : UInt32) : Bool := found = code || found = -code

def FileError.ofSystem : IO.Error → FileError
  | .noFileOrDirectory _ _ _ => .notFound
  | .inappropriateType _ code _ =>
      if isCode isDirectoryCode code then .isDirectory else .notDirectory
  | .invalidArgument filename code details =>
      if isCode nameTooLongCode code then .nameTooLong
      else .other (toString (IO.Error.invalidArgument filename code details))
  | error => .other (toString error)

def readPath (path : String) : IO (Except FileError String) := do
  try
    return .ok (← IO.FS.readFile path)
  catch error =>
    return .error (.ofSystem error)

def readVariables : IO (List (String × String)) :=
  Settings.variableNames.filterMapM fun name => do
    return (← IO.getEnv name).map fun value => (name, value)

/-- Carries out the request that the arguments make; gives the exit code. -/
def serveArguments (arguments : List String) : IO UInt32 := do
  let found ← readVariables
  let environment := fun name => Bindings.get? name found
  let request := readArguments {} arguments
  let readings ← (request.paths environment).mapM fun path => do
    return (path, ← readPath path)
  let report := request.carryOut (Files.ofReadings readings) environment
  IO.print report.stdout
  IO.eprint report.stderr
  return report.code.toUInt32

end CooperativeTasks

def main (arguments : List String) : IO UInt32 := CooperativeTasks.serveArguments arguments
