import BridgeSetup.Interpreter.Runtime
import BridgeSetup.Setup.Architecture
import BridgeSetup.Setup.Configure
import BridgeSetup.Setup.DefaultConfig
import BridgeSetup.Setup.Unpack

/-!
# The setup flow

For a probed interpreter: write the default configuration, locate the binary distribution,
unpack it, configure the bridge. A step is skipped when its result is already there, unless
the run is forced. Nothing is undone after a failure.
-/

namespace BridgeSetup.Setup

/-- What is logged about the distribution that a run is for. -/
def distributionMessage (distribution : Distribution) : String :=
  let identifier := distribution.identifier
  match Distribution.ofIdentifier? identifier with
  | some ⟨platform, version⟩ =>
    "binary distribution: " ++ identifier ++ " (platform " ++ platform ++ ", Python " ++
      version ++ ")"
  | none => "binary distribution: " ++ identifier

/-- The archive of the distribution: located, and extracted if necessary, when it has to be
unpacked, and computed only when it does not. -/
def findArchive (env : Environment) (options : SetupOptions) (paths : InstallPaths) :
    Task SetupError Path := do
  if ← Task.look (Unpack.isNeeded env · paths.marker options.force) then
    Unpack.locateArchive env options.javaModule paths.distribution paths.directory
  else
    Task.look
      (Unpack.expectedArchive env · options.javaModule paths.distribution paths.directory)

/-- Writes the default configuration if there is none. -/
def provideDefaultConfig (env : Environment) (options : SetupOptions) (paths : InstallPaths) :
    Task SetupError Unit := do
  if ← DefaultConfig.write env .io paths.defaultConfig options.snapHome options.force then
    Task.say env .info ("wrote '" ++ paths.defaultConfig.text ++ "'")

/-- Sets up the bridge for a probed interpreter, and returns the installer's status, which
is zero when there was nothing to configure. -/
def run (env : Environment) (options : SetupOptions) (runtime : Runtime)
    (installer : Installer) : Task SetupError Int := do
  Task.say env .info ("installing from Java module '" ++ options.javaModule.text ++ "'")
  Task.sayAll env (Architecture.warnings options.reqArch runtime.machine runtime.is64Bit)
  let paths := InstallPaths.resolve options.installDir ⟨runtime.platform, runtime.version⟩
  Task.say env .debug (distributionMessage paths.distribution)
  provideDefaultConfig env options paths
  let archive ← findArchive env options paths
  let _ ← Unpack.unpackArchive env archive paths.marker paths.directory options.force
  Configure.configure env paths archive options installer

end BridgeSetup.Setup
