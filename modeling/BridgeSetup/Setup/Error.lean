import BridgeSetup.Installer.Error
import BridgeSetup.Zip.Error

/-!
# Failures of a setup run

Every failure has a message, a diagnostic form, log entries that explain it to the
operator, and an exit status: 20 when the installer module is missing where it should have
been unpacked, 10 in every other case.
-/

namespace BridgeSetup

/-- The diagnostic form of an archive failure. -/
def ZipError.diagnostic : ZipError → String
  | .invalid detail => "InvalidArchive(" ++ Text.quoted detail ++ ")"
  | .unsupported detail => "UnsupportedArchive(" ++ Text.quoted detail ++ ")"
  | .memberNotFound => "FileNotFound"
  | .invalidPassword => "InvalidPassword"
  | .unreadable error => "Io(" ++ error.diagnostic ++ ")"

/-- Why a setup run failed. -/
inductive SetupError where
  /-- The binary distribution is not there. -/
  | missingArchive (archive : Path)
  /-- The installer module is not there although the distribution was unpacked. -/
  | missingInstaller (module archive : Path)
  /-- The binary distribution cannot be taken out of the Java module. -/
  | extraction (archive : Path) (member : String) (source : ZipError)
  /-- The binary distribution cannot be unpacked. -/
  | unpack (archive : Path) (source : ZipError)
  /-- The installation directory cannot be determined. -/
  | installDir (detail : String)
  /-- No interpreter can be used. -/
  | discovery (error : DiscoveryError)
  /-- The installer did not report a status. -/
  | bridge (error : BridgeError)
  /-- A file operation failed. -/
  | io (error : IoError)
  deriving DecidableEq, Repr

namespace SetupError

/-- A failure of the bridge as a failure of the run; a wrapped interpreter failure is
unwrapped. -/
def ofBridge : BridgeError → SetupError
  | .discovery error => .discovery error
  | error => .bridge error

/-- The exit status of a run that ended without a problem. -/
def successStatus : Int := 0

/-- The exit status of a failed run. -/
def failureStatus : Int := 10

/-- The exit status of a run that found no installer module. -/
def missingInstallerStatus : Int := 20

/-- The exit status that a failure leads to. -/
def exitStatus : SetupError → Int
  | missingInstaller .. => missingInstallerStatus
  | _ => failureStatus

/-- Where binary distributions can be built. -/
def homepage : String := "https://github.com/bcdev/jpy"

/-- What is said about a failure. -/
def message : SetupError → String
  | missingArchive archive => "Can't find binary distribution '" ++ archive.text ++ "'"
  | missingInstaller module _ =>
    "Missing Python module '" ++ module.text ++ "' required to complete the configuration"
  | extraction archive member source =>
    "Failed to extract '" ++ member ++ "' from '" ++ archive.text ++ "': " ++ source.message
  | unpack archive source => "Failed to unpack '" ++ archive.text ++ "': " ++ source.message
  | installDir detail => "Could not determine installation directory: " ++ detail
  | discovery error => error.message
  | bridge error => error.message
  | io error => "IO error: " ++ error.message

/-- The diagnostic form of a failure. -/
def diagnostic : SetupError → String
  | missingArchive archive => "MissingArchive(" ++ archive.quoted ++ ")"
  | missingInstaller module archive =>
    "MissingInstaller \x7b module: " ++ module.quoted ++ ", archive: " ++ archive.quoted ++ " \x7d"
  | extraction archive member source =>
    "Extraction \x7b archive: " ++ archive.quoted ++ ", member: " ++ Text.quoted member ++
      ", source: " ++ source.diagnostic ++ " \x7d"
  | unpack archive source =>
    "Unpack \x7b archive: " ++ archive.quoted ++ ", source: " ++ source.diagnostic ++ " \x7d"
  | installDir detail => "InstallDir(" ++ Text.quoted detail ++ ")"
  | discovery error => "Discovery(" ++ error.diagnostic ++ ")"
  | bridge error => "Bridge(" ++ error.diagnostic ++ ")"
  | io error => "Io(" ++ error.diagnostic ++ ")"

/-- The message with which every failed configuration is announced. -/
def announced (text : String) : String :=
  "Configuration failed: " ++ text

/-- The log entries that explain a failure to the operator. -/
def report (error : SetupError) : List Entry :=
  match error with
  | missingArchive _ =>
    [⟨.error, error.message⟩,
     ⟨.error,
      "... of Python module 'jpy' for this system. You can try to generate one yourself."⟩,
     ⟨.error, "... Please go to " ++ homepage ++ " and follow the build instructions"⟩,
     ⟨.error, "... given there."⟩]
  | missingInstaller _ archive =>
    [⟨.error, error.message ++ "."⟩,
     ⟨.error,
      "This file should have been part of binary distribution '" ++ archive.text ++ "'."⟩]
  | _ => [⟨.error, announced error.message⟩, ⟨.debug, error.diagnostic⟩]

/-- The log entry for an internal error that was caught. -/
def internalError (detail : String) : Entry :=
  ⟨.error, announced ("internal error: " ++ detail)⟩

end SetupError

end BridgeSetup
