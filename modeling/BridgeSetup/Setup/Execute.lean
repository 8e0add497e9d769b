import BridgeSetup.CommandLine.Parser
import BridgeSetup.Installer.Scripted
import BridgeSetup.Interpreter.Discovery
import BridgeSetup.Settings.Basic
import BridgeSetup.Setup.Flow

/-!
# Carrying out a command line

A run takes its installation directory from the command line or from its own place, reads
the settings there, chooses and probes an interpreter, and sets up the bridge. Values of
the command line win over settings. A run never fails: its failures are reported in the
log, and it has an exit status between 0 and 255 either way.
-/

namespace BridgeSetup

open CommandLine (Arguments)

/-- The options of a setup run: the command line's values, and settings where it has
none. -/
def SetupOptions.ofArguments (arguments : Arguments) (installDir : Path) (settings : Settings) :
    SetupOptions where
  installDir := installDir
  javaModule := arguments.javaModule
  snapHome := arguments.snapHome.or settings.snapHome
  javaHome := arguments.javaHome.or settings.javaHome
  reqArch := arguments.reqArch
  reqJava := arguments.reqJava
  reqPython := arguments.reqPython
  force := arguments.force

namespace Execute

/-- The installation directory: the one that was asked for, or else the one that holds the
running program, as a canonical absolute path. -/
def resolveInstallDir (env : Environment) (requested : Option Path) :
    Except SetupError Path := do
  let directory ←
    match requested with
    | some directory => .ok directory
    | none =>
      match env.executable.parent with
      | some directory => .ok directory
      | none =>
        .error (.installDir ("'" ++ env.executable.text ++ "' has no parent directory"))
  return (env.workingPath.join directory).normalize

/-- The settings of an installation directory; settings that cannot be used are reported
and count as none. -/
def loadSettings (env : Environment) (directory : Path) : Task SetupError Settings := do
  match ← Task.look (Settings.loadFor env · directory) with
  | .ok settings => return settings
  | .error error =>
    Task.say env .warning ("ignoring settings: " ++ error.message)
    return Settings.none

/-- Chooses and probes an interpreter and sets up the bridge for it. -/
def runWith (env : Environment) (arguments : Arguments) (directory : Path)
    (settings : Settings) : Task SetupError Int := do
  let python ← Task.mapError .discovery
    (Interpreter.find env (arguments.python.or settings.python))
  let runtime ← Task.mapError .discovery (Interpreter.probe env python)
  let options := SetupOptions.ofArguments arguments directory settings
  Setup.run env options runtime (Installer.scripted env runtime.executable)

/-- Carries out a command line; the result is the installer's status. -/
def attempt (env : Environment) (arguments : Arguments) : Task SetupError Int := do
  let directory ← Task.ofExcept (resolveInstallDir env arguments.installDir)
  Task.say env .debug ("installation directory: " ++ directory.text)
  let settings ← loadSettings env directory
  runWith env arguments directory settings

/-- Whether a status survives as the exit status of a process. -/
def isExitStatus (status : Int) : Bool :=
  0 ≤ status && status ≤ 255

/-- The exit status for a result, and what the log says about it. -/
def conclude : Except SetupError Int → Int × List Entry
  | .ok status =>
    if isExitStatus status then (status, [])
    else
      (SetupError.failureStatus,
        [⟨.error, SetupError.announced
          ("installer status " ++ toString status ++ " is not a valid exit status")⟩])
  | .error error => (error.exitStatus, error.report)

/-- Carries out a command line in a session: the exit status and the session afterwards. -/
def execute (env : Environment) (arguments : Arguments) (session : Session) :
    Int × Session :=
  let (result, left) := (attempt env arguments).runOn session
  let (status, entries) := conclude result
  (status, left.recordAll env entries)

end Execute

end BridgeSetup
