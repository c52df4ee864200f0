import CooperativeTasks.Log
import CooperativeTasks.Session
import CooperativeTasks.Unmarked

set_option autoImplicit false

/-! One-line descriptions of an executor and its settings. -/

namespace CooperativeTasks

/-- A character of a quoted name: quotes, backslashes and unmarked characters are escaped. -/
def describeCharacter (letter : Char) : String :=
  if letter = '"' then "\\\""
  else if letter = '\\' then "\\\\"
  else if letter = '\n' then "\\n"
  else if letter = '\r' then "\\r"
  else if letter = '\t' then "\\t"
  else if letter.toNat = 0 then "\\0"
  else if isUnmarked letter then
    "\\u\x7b" ++ String.ofList (Nat.toDigits 16 letter.toNat) ++ "\x7d"
  else letter.toString

def describeName (name : String) : String :=
  "\"" ++ String.join (name.toList.map describeCharacter) ++ "\""

def InterpreterSettings.describe (settings : InterpreterSettings) : String :=
  "InterpreterConfig \x7b echo_output: " ++ Settings.boolText settings.echoOutput
    ++ ", background_cycles: " ++ Settings.boolText settings.backgroundCycles
    ++ ", max_call_depth: " ++ toString settings.maxCallDepth ++ " \x7d"

def Executor.describe (executor : Executor) : String :=
  let names := (executor.functions.map Prod.fst).mergeSort fun left right => !(right < left)
  "Interpreter \x7b scope_depth: " ++ toString executor.scopes.depth
    ++ ", functions: [" ++ String.intercalate ", " (names.map describeName)
    ++ "], current_task: " ++ optionalTaskText executor.currentTask
    ++ ", auto_yield: " ++ Settings.boolText executor.autoYield
    ++ ", call_depth: " ++ toString executor.callDepth
    ++ ", output_lines: " ++ toString executor.output.size
    ++ ", config: " ++ executor.settings.describe ++ " \x7d"

end CooperativeTasks
