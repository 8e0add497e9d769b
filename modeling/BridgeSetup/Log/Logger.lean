import BridgeSetup.Log.Level
import BridgeSetup.Text.Lines

/-!
# The log

A logger accepts the messages whose level is at least its minimum and keeps them in
order. Each accepted message is one log line, the name of its level followed by a space
and the message; the lines can be read back level by level.
-/

namespace BridgeSetup

/-- A message together with its level. -/
structure Entry where
  level : Level
  message : String
  deriving DecidableEq, Repr

/-- The log line of a message. -/
def Entry.line (entry : Entry) : String :=
  entry.level.name ++ " " ++ entry.message

/-- A minimum level and the messages accepted so far, oldest first. -/
structure Logger where
  minimum : Level
  entries : List Entry
  deriving DecidableEq, Repr

namespace Logger

/-- A logger that has not accepted anything yet. -/
def empty (minimum : Level) : Logger :=
  ⟨minimum, []⟩

/-- Whether messages of a level are accepted. -/
def enabled (logger : Logger) (level : Level) : Bool :=
  logger.minimum ≤ level

/-- The logger after a message has been offered to it. -/
def log (logger : Logger) (entry : Entry) : Logger :=
  if logger.enabled entry.level then { logger with entries := logger.entries ++ [entry] }
  else logger

/-- The logger after several messages have been offered to it in order. -/
def logAll (logger : Logger) (entries : List Entry) : Logger :=
  entries.foldl log logger

/-- The recorded lines, oldest first. -/
def lines (logger : Logger) : List String :=
  logger.entries.map Entry.line

/-- Whether some recorded line contains a text. -/
def contains (logger : Logger) (text : String) : Bool :=
  logger.lines.any fun line => Text.occursIn text.toList line.toList

/-- The part of a line after the name of a level and a space. -/
def messageAt? (level : Level) (line : String) : Option String :=
  let lead := (level.name ++ " ").toList
  if lead.isPrefixOf line.toList then some (String.ofList (line.toList.drop lead.length)) else none

/-- The messages of the recorded lines that start with the name of a level. -/
def atLevel (logger : Logger) (level : Level) : List String :=
  logger.lines.filterMap (messageAt? level)

end Logger

end BridgeSetup
