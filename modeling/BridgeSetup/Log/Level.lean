import BridgeSetup.Text.Blank

/-!
# Levels of log messages

The four severities, ordered from least to most severe, and their names.
-/

namespace BridgeSetup

/-- The severity of a log message. -/
inductive Level where
  | debug
  | info
  | warning
  | error
  deriving DecidableEq, Repr

namespace Level

/-- The position of a level in the order of severity. -/
def severity : Level → Nat
  | debug => 0
  | info => 1
  | warning => 2
  | error => 3

instance : LE Level where
  le first second := first.severity ≤ second.severity

instance (first second : Level) : Decidable (first ≤ second) :=
  inferInstanceAs (Decidable (first.severity ≤ second.severity))

/-- Every level, from the least severe. -/
def all : List Level := [debug, info, warning, error]

/-- The name that starts every log line of the level. -/
def name : Level → String
  | debug => "DEBUG"
  | info => "INFO"
  | warning => "WARNING"
  | error => "ERROR"

/-- The level with the given upper-case name; `WARN` is short for `WARNING`. -/
def ofName? : String → Option Level
  | "DEBUG" => some debug
  | "INFO" => some info
  | "WARNING" => some warning
  | "WARN" => some warning
  | "ERROR" => some error
  | _ => none

/-- The spelling in which a requested level is looked up: without surrounding white space
and with ASCII letters in upper case. -/
def canonicalName (text : String) : String :=
  (Text.trim text).map Char.toUpper

/-- What is said about a text that names no level. -/
def unknownMessage (text : String) : String :=
  let name := canonicalName text
  s!"Invalid log level: {name} (expected DEBUG, INFO, WARNING or ERROR)"

/-- The level that a text names, in any case and with any white space around it. -/
def parse (text : String) : Except String Level :=
  match ofName? (canonicalName text) with
  | some level => .ok level
  | none => .error (unknownMessage text)

end Level

end BridgeSetup
