import BridgeSetup.Distribution.InstallPaths
import BridgeSetup.Path.Normalize
import BridgeSetup.Run.Session
import BridgeSetup.Setup.Error

/-!
# Configuring the bridge

The bridge's configuration is written by its installer. This step decides whether that is
needed, finds a Java home when none was asked for, and hands over to the installer.
-/

namespace BridgeSetup

/-- The resolved inputs of a setup run. -/
structure SetupOptions where
  installDir : Path
  javaModule : Path
  snapHome : Option String
  javaHome : Option Path
  reqArch : Option String
  reqJava : Bool
  reqPython : Bool
  force : Bool
  deriving DecidableEq, Repr

namespace Configure

/-- Where an installation of the host application has its own Java runtime, seen from the
installation directory, which lies three levels below the application's home. -/
def bundledRuntime (installDir : Path) : Path :=
  (((installDir.child "..").child "..").child "..").child "jre"

/-- The Java home that was asked for, or else the host application's own runtime if it
has one. -/
def resolveJavaHome {ε : Type} (env : Environment) (requested : Option Path)
    (installDir : Path) : Task ε (Option Path) := do
  match requested with
  | some home => return some home
  | none =>
    let bundled := bundledRuntime installDir
    if ← Task.look (·.pathExists env.workingDirectory bundled) then
      let home := bundled.normalize
      Task.say env .debug ("using bundled JRE at '" ++ home.text ++ "'")
      return some home
    else
      Task.say env .debug
        ("no bundled JRE at '" ++ bundled.text ++ "', leaving Java home to the installer")
      return none

/-- A failure to load the installer: the missing module is reported together with the
archive that should have contained it. -/
def loadFailure (archive : Path) : BridgeError → SetupError
  | .installerMissing module => .missingInstaller module archive
  | error => .ofBridge error

/-- Runs the installer unless the configuration is there, and returns its status. -/
def configure (env : Environment) (paths : InstallPaths) (archive : Path)
    (options : SetupOptions) (installer : Installer) : Task SetupError Int := do
  if !options.force && (← Task.look (paths.isConfigured · env.workingDirectory)) then
    Task.say env .debug "jpy configuration files exist, skipping configuration"
    return SetupError.successStatus
  Task.note [.load paths.installerModule]
  let writer ← Task.ofReply env (loadFailure archive) (installer.load paths.installerModule)
  let javaHome ← resolveJavaHome env options.javaHome paths.directory
  let request : WriteRequest :=
    ⟨paths.directory, javaHome, options.reqJava, options.reqPython⟩
  Task.note [.write request]
  Task.writeConfig env .ofBridge writer request

end Configure

end BridgeSetup
