import CooperativeTasks.Interpreter.Run

set_option autoImplicit false

/-! What a finished run leaves behind, and its text.

A report is written in the usual notation of nested objects and lists: two spaces a level, an
empty list or object on one line, a number that is not finite as `null`. -/

namespace CooperativeTasks

structure TaskSummary where
  id : TaskId
  name : String
  state : TaskState
  counter : Nat
  bodyLength : Nat
  steps : Nat
  autoYield : Bool
  isReady : Bool
  resultKind : Option ValueKind
  result : Option Value

def Task.summary (task : Task) : TaskSummary where
  id := task.id
  name := task.name
  state := task.state
  counter := task.counter
  bodyLength := task.statements.length
  steps := task.steps
  autoYield := task.autoYield
  isReady := task.future.isReady
  resultKind := task.resultKind
  result := task.result

structure RunReport where
  output : List String
  tasks : List TaskSummary
  statistics : Statistics

def Session.report (session : Session) : RunReport where
  output := session.executor.output.toList
  tasks := session.scheduler.tasks.map Task.summary
  statistics := session.scheduler.statistics

/-! ### Nested text -/

inductive Layout where
  /-- Written as it is. -/
  | bare (text : String)
  | list (items : List Layout)
  | object (entries : List (String × Layout))

namespace Layout

def hexDigit (value : Nat) : Char := (Nat.digitChar value)

def escape (letter : Char) : String :=
  if letter = '"' then "\\\""
  else if letter = '\\' then "\\\\"
  else if letter = '\n' then "\\n"
  else if letter = '\r' then "\\r"
  else if letter = '\t' then "\\t"
  else if letter.toNat = 8 then "\\b"
  else if letter.toNat = 12 then "\\f"
  else if letter.toNat < 32 then
    "\\u00" ++ String.ofList [hexDigit (letter.toNat / 16), hexDigit (letter.toNat % 16)]
  else letter.toString

def quoted (text : String) : String := "\"" ++ String.join (text.toList.map escape) ++ "\""

def text (content : String) : Layout := .bare (quoted content)

def number (value : Nat) : Layout := .bare (toString value)

def bool (truth : Bool) : Layout := .bare (Settings.boolText truth)

def null : Layout := .bare "null"

def margin (depth : Nat) : String := String.ofList (List.replicate (2 * depth) ' ')

/-- Items on lines of their own, one level in. -/
def enclose (opening closing : String) (depth : Nat) (items : List String) : String :=
  if items.isEmpty then opening ++ closing
  else
    opening ++ "\n"
      ++ String.intercalate ",\n" (items.map fun item => margin (depth + 1) ++ item)
      ++ "\n" ++ margin depth ++ closing

mutual

/-- The text of a layout whose first line stands at a depth. -/
def render (depth : Nat) : Layout → String
  | .bare text => text
  | .list items => enclose "[" "]" depth (renderItems (depth + 1) items)
  | .object entries => enclose "\x7b" "\x7d" depth (renderEntries (depth + 1) entries)

def renderItems (depth : Nat) : List Layout → List String
  | [] => []
  | item :: rest => render depth item :: renderItems depth rest

def renderEntries (depth : Nat) : List (String × Layout) → List String
  | [] => []
  | (key, value) :: rest =>
      (quoted key ++ ": " ++ render depth value) :: renderEntries depth rest

end

end Layout

/-! ### Reports -/

mutual

def Value.layout : Value → Layout
  | .void => .text "Void"
  | .bool truth => .object [("Bool", .bool truth)]
  | .int number => .object [("Int", .bare (toString number.toInt))]
  | .float number => .object [("Float", .bare ((Decimal.scientific? number).getD "null"))]
  | .str text => .object [("Str", .text text)]
  | .struct typeName fields =>
      .object
        [("Struct", .object [("type_name", .text typeName), ("fields", .object (fieldLayouts fields))])]

def Value.fieldLayouts : List (String × Value) → List (String × Layout)
  | [] => []
  | (name, value) :: rest => (name, value.layout) :: Value.fieldLayouts rest

end

def TaskSummary.layout (task : TaskSummary) : Layout :=
  .object
    [ ("id", .number task.id.index),
      ("name", .text task.name),
      ("state", .text task.state.name),
      ("statement_index", .number task.counter),
      ("body_len", .number task.bodyLength),
      ("steps", .number task.steps),
      ("auto_yield", .bool task.autoYield),
      ("is_ready", .bool task.isReady),
      ("result_kind", (task.resultKind.map fun kind => Layout.text kind.name).getD .null),
      ("result", (task.result.map Value.layout).getD .null) ]

def Statistics.layout (statistics : Statistics) : Layout :=
  .object
    [ ("tasks_registered", .number statistics.tasksRegistered),
      ("tasks_completed", .number statistics.tasksCompleted),
      ("steps_executed", .number statistics.stepsExecuted),
      ("steps_blocked", .number statistics.stepsBlocked),
      ("timeouts", .number statistics.timeouts),
      ("idle_backoffs", .number statistics.idleBackoffs) ]

def RunReport.text (report : RunReport) : String :=
  Layout.render 0 <|
    .object
      [ ("output", .list (report.output.map Layout.text)),
        ("tasks", .list (report.tasks.map TaskSummary.layout)),
        ("stats", report.statistics.layout) ]

end CooperativeTasks
