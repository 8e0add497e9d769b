import BridgeSetup.FileTree.Fault
import BridgeSetup.Path.Basic
import BridgeSetup.Process.Outcome

/-!
# Failures of choosing and probing an interpreter
-/

namespace BridgeSetup

/-- Why no interpreter can be used. -/
inductive DiscoveryError where
  /-- No interpreter was found. -/
  | noInterpreter (detail : String)
  /-- The interpreter could not be started. -/
  | notStarted (executable : Path) (source : IoError)
  /-- The probe ran and reported a problem. -/
  | probeFailed (executable : Path) (code : Option Int) (stderr : String)
  /-- The probe printed something unexpected. -/
  | malformedProbe (detail : String)
  deriving DecidableEq, Repr

namespace DiscoveryError

/-- The part of a failed probe's message that repeats its error output. -/
def stderrPart (stderr : String) : String :=
  if Text.isBlankText stderr then "" else ": " ++ Text.trim stderr

/-- What is said about a failure. -/
def message : DiscoveryError → String
  | noInterpreter detail => "No Python found: " ++ detail
  | notStarted executable source =>
    "Failed to start '" ++ executable.text ++ "': " ++ source.message
  | probeFailed executable code stderr =>
    "Probing '" ++ executable.text ++ "' failed (exit code " ++ Exit.optionalCode code ++ ")" ++
      stderrPart stderr
  | malformedProbe detail => "Unexpected interpreter probe output: " ++ detail

/-- The diagnostic form of a failure. -/
def diagnostic : DiscoveryError → String
  | noInterpreter detail => "NoPython(" ++ Text.quoted detail ++ ")"
  | notStarted executable source =>
    "Spawn \x7b executable: " ++ executable.quoted ++ ", source: " ++ source.diagnostic ++ " \x7d"
  | probeFailed executable code stderr =>
    "ProbeFailed \x7b executable: " ++ executable.quoted ++ ", status: " ++
      Exit.optionalCode code ++ ", stderr: " ++ Text.quoted stderr ++ " \x7d"
  | malformedProbe detail => "MalformedProbe(" ++ Text.quoted detail ++ ")"

end DiscoveryError

end BridgeSetup
