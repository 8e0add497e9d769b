import BridgeSetup.Log.Logger
import BridgeSetup.Text.Bytes
import BridgeSetup.Text.Utf8

/-!
# Finished programs

How a program ended, what it wrote, and how its end is logged.
-/

namespace BridgeSetup

/-- How a program ended. -/
inductive Exit where
  /-- It ended by itself with an exit code. -/
  | code (number : Nat)
  /-- It was ended by a signal. -/
  | signal
  deriving DecidableEq, Repr

namespace Exit

/-- The end that a raw wait status describes. -/
def ofWaitStatus (raw : Nat) : Exit :=
  if raw % 128 = 0 then .code (raw / 256 % 256) else .signal

/-- The exit code of a program that ended by itself. -/
def code? : Exit → Option Nat
  | .code number => some number
  | .signal => none

/-- Whether a program ended without reporting a problem. -/
def isSuccess (exit : Exit) : Bool :=
  exit = .code 0

/-- The diagnostic form of an optional exit code. -/
def optionalCode : Option Int → String
  | some number => "Some(" ++ toString number ++ ")"
  | none => "None"

/-- The diagnostic form of the exit code. -/
def shown (exit : Exit) : String :=
  optionalCode (exit.code?.map Int.ofNat)

end Exit

/-- A finished program: how it ended and what it wrote to its two output streams. -/
structure Finished where
  exit : Exit
  stdout : Bytes
  stderr : Bytes
  deriving DecidableEq, Repr

namespace Finished

/-- The log entry for an output stream, if it has more than white space in it. -/
def streamEntries (title : String) (output : Bytes) : List Entry :=
  let text := Utf8.decodeLossy output
  if Text.isBlankText text then []
  else [⟨.debug, "  " ++ title ++ ":\n" ++ Text.trimEnd text⟩]

/-- The log entries about a finished program, which is called by the given name. -/
def entries (name : String) (finished : Finished) : List Entry :=
  ⟨.debug, "COMMAND: " ++ name ++ " (exit code: " ++ finished.exit.shown ++ ")"⟩ ::
    streamEntries "STDOUT" finished.stdout ++ streamEntries "STDERR" finished.stderr

end Finished

end BridgeSetup
