import BridgeSetup.Distribution.Identifier
import BridgeSetup.FileTree.Access

/-!
# The files of an installation

Every file that a run reads or writes in the installation directory, as a function of the
directory and the distribution.
-/

namespace BridgeSetup

/-- The files of an installation. -/
structure InstallPaths where
  directory : Path
  distribution : Distribution
  /-- The default configuration, read when the installed package is imported. -/
  defaultConfig : Path
  /-- The file that shows that the distribution has been unpacked. -/
  marker : Path
  /-- The bridge's own installer. -/
  installerModule : Path
  /-- The bridge's configuration for the Java side. -/
  javaConfig : Path
  /-- The bridge's configuration for the Python side. -/
  pythonConfig : Path
  deriving DecidableEq, Repr

namespace InstallPaths

/-- The files of an installation of a distribution in a directory. -/
def resolve (directory : Path) (distribution : Distribution) : InstallPaths where
  directory := directory
  distribution := distribution
  defaultConfig := directory.child "beampy.ini"
  marker := directory.child distribution.markerName
  installerModule := directory.child "jpyutil.py"
  javaConfig := directory.child "jpyconfig.properties"
  pythonConfig := directory.child "jpyconfig.py"

/-- Whether the bridge's configuration is there. -/
def isConfigured (paths : InstallPaths) (tree : FileTree) (here : Location) : Bool :=
  tree.pathExists here paths.javaConfig && tree.pathExists here paths.pythonConfig

end InstallPaths

end BridgeSetup
