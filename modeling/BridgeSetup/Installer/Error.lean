import BridgeSetup.Interpreter.Error

/-!
# Failures of the bridge's installer
-/

namespace BridgeSetup

/-- Why the bridge's installer did not report a status. -/
inductive BridgeError where
  /-- The installer module is not there. -/
  | installerMissing (module : Path)
  /-- The interpreter that should run the installer could not be started. -/
  | notStarted (command : String) (source : IoError)
  /-- The installer ended by itself without a status. -/
  | noStatus (command : String) (code : Int) (detail : String)
  /-- The installer was ended by a signal before it reported a status. -/
  | terminated (command : String)
  /-- The interpreter cannot be used. -/
  | discovery (error : DiscoveryError)
  /-- A file operation failed. -/
  | io (error : IoError)
  deriving DecidableEq, Repr

namespace BridgeError

/-- What is said about a failure. -/
def message : BridgeError → String
  | installerMissing module => "Installer module not found: " ++ module.text
  | notStarted command source => "Failed to run '" ++ command ++ "': " ++ source.message
  | noStatus command code detail =>
    "'" ++ command ++ "' failed without reporting a status (exit code " ++ toString code ++
      "): " ++ detail
  | terminated command => "'" ++ command ++ "' was terminated before reporting a status"
  | discovery error => "Python interpreter error: " ++ error.message
  | io error => "IO error: " ++ error.message

/-- The diagnostic form of a failure. -/
def diagnostic : BridgeError → String
  | installerMissing module => "InstallerMissing(" ++ module.quoted ++ ")"
  | notStarted command source =>
    "Spawn \x7b command: " ++ Text.quoted command ++ ", source: " ++ source.diagnostic ++ " \x7d"
  | noStatus command code detail =>
    "NoStatus \x7b command: " ++ Text.quoted command ++ ", code: " ++ toString code ++
      ", detail: " ++ Text.quoted detail ++ " \x7d"
  | terminated command => "Terminated(" ++ Text.quoted command ++ ")"
  | discovery error => "Discovery(" ++ error.diagnostic ++ ")"
  | io error => "Io(" ++ error.diagnostic ++ ")"

end BridgeError

end BridgeSetup
