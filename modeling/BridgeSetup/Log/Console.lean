import BridgeSetup.Log.Logger

/-!
# Messages on a console and in a log file

A console shows plain messages for information and a tag before all others; the tags may
be coloured. A log file has one line per message with the time of writing in front.
-/

namespace BridgeSetup

/-- The escape sequence that starts bold text in a colour. -/
def boldColour (colour : String) : String :=
  "\x1b[1;" ++ colour ++ "m"

/-- The escape sequence that ends coloured text. -/
def plainColour : String := "\x1b[0m"

namespace Level

/-- The tag of a level on a console and the number of its colour. -/
def consoleTag? : Level → Option (String × String)
  | debug => some ("DEBUG:", "34")
  | info => none
  | warning => some ("warning:", "33")
  | error => some ("Error:", "31")

end Level

namespace Entry

/-- A message as a console shows it. -/
def onConsole (coloured : Bool) (entry : Entry) : String :=
  match entry.level.consoleTag? with
  | none => entry.message ++ "\n"
  | some (tag, colour) =>
    let shown := if coloured then boldColour colour ++ tag ++ plainColour else tag
    shown ++ " " ++ entry.message ++ "\n"

/-- A message as a log file holds it, written at the given time. -/
def inFile (time : String) (entry : Entry) : String :=
  "[" ++ time ++ "] " ++ entry.line ++ "\n"

end Entry

end BridgeSetup
