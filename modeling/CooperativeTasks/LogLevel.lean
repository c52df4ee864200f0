set_option autoImplicit false

/-! Log levels and their names. -/

namespace CooperativeTasks

inductive LogLevel where
  | trace
  | debug
  | info
  | warn
  | error
  deriving DecidableEq, Repr

namespace LogLevel

def severity : LogLevel → Nat
  | .trace => 0
  | .debug => 1
  | .info => 2
  | .warn => 3
  | .error => 4

def name : LogLevel → String
  | .trace => "trace"
  | .debug => "debug"
  | .info => "info"
  | .warn => "warn"
  | .error => "error"

def label : LogLevel → String
  | .trace => "TRACE"
  | .debug => "DEBUG"
  | .info => "INFO"
  | .warn => "WARN"
  | .error => "ERROR"

def all : List LogLevel := [.trace, .debug, .info, .warn, .error]

def ofName? (name : String) : Option LogLevel := all.find? fun level => level.name == name

/-- The characters with the Unicode property White_Space. -/
def isBlank (letter : Char) : Bool :=
  let code := letter.toNat
  (9 ≤ code && code ≤ 13) || code == 0x20 || code == 0x85 || code == 0xA0 || code == 0x1680
    || (0x2000 ≤ code && code ≤ 0x200A) || code == 0x2028 || code == 0x2029 || code == 0x202F
    || code == 0x205F || code == 0x3000

def trimBlanks (text : List Char) : List Char :=
  ((text.dropWhile isBlank).reverse.dropWhile isBlank).reverse

/-- Letters of the Latin alphabet become small; all others stay as they are. -/
def lowerLatin (letter : Char) : Char :=
  if 'A' ≤ letter ∧ letter ≤ 'Z' then Char.ofNat (letter.toNat + 32) else letter

/-- Reads a level, whatever its case and the blanks around it; `warning` is another name of
`warn`. An unknown name is given back as it was understood. -/
def parse (text : String) : Except String LogLevel :=
  let word := String.ofList ((trimBlanks text.toList).map lowerLatin)
  match ofName? word with
  | some level => .ok level
  | none => if word = "warning" then .ok .warn else .error word

def unknownMessage (word : String) : String := "unknown log level `" ++ word ++ "`"

end LogLevel

end CooperativeTasks
