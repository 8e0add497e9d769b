import BridgeSetup.FileTree.Access
import BridgeSetup.Process.Start
import BridgeSetup.Settings.Document

/-!
# Settings

Defaults for a run that are kept in a file: the interpreter, the Java home and the home
directory of the host application. The file is named by the environment or lies in the
installation directory; without one there are no defaults.
-/

namespace BridgeSetup

/-- Defaults for a run. -/
structure Settings where
  python : Option Path
  javaHome : Option Path
  snapHome : Option String
  deriving DecidableEq, Repr

/-- Why settings cannot be used. -/
inductive SettingsError where
  /-- The file cannot be read. -/
  | unreadable (path : Path) (source : IoError)
  /-- The file is not a document of settings; `detail` describes the first flaw. -/
  | malformed (path : Path) (detail : String)
  deriving DecidableEq, Repr

/-- What is said about settings that cannot be used. -/
def SettingsError.message : SettingsError → String
  | unreadable path source =>
    "Failed to read settings file '" ++ path.text ++ "': " ++ source.message
  | malformed path detail => "Failed to parse settings file '" ++ path.text ++ "': " ++ detail

namespace Settings

/-- Settings without any default. -/
def none : Settings := ⟨Option.none, Option.none, Option.none⟩

/-- Whether settings contain no default. -/
def isEmpty (settings : Settings) : Bool :=
  settings.python.isNone && settings.javaHome.isNone && settings.snapHome.isNone

/-- The keys that a document of settings may have. -/
def keys : List String := ["python", "java_home", "snap_home"]

/-- The settings that the keys and values of a document make up. -/
def ofPairs? (pairs : List (String × String)) : Option Settings :=
  if pairs.all fun pair => keys.contains pair.1 then
    some {
      python := (pairs.lookup "python").map Path.mk
      javaHome := (pairs.lookup "java_home").map Path.mk
      snapHome := pairs.lookup "snap_home" }
  else Option.none

/-- The settings of a document. -/
def ofText? (text : String) : Option Settings :=
  (Document.settings? text).bind ofPairs?

/-- The name of the settings file in an installation directory. -/
def fileName : String := "beampy-setup.toml"

/-- Where the settings are: in the file that the environment names, unless that is only
white space, or else in the installation directory. -/
def location (named : Option String) (directory : Path) : Path :=
  match named with
  | some text =>
    if Text.isBlankText text then directory.child fileName else ⟨Text.trim text⟩
  | Option.none => directory.child fileName

/-- What is said about a document that is not one of settings. -/
def malformedDetail : String := "TOML parse error at line"

/-- The settings in a file; a missing file contains none. -/
def load (tree : FileTree) (here : Location) (path : Path) (refusals : Refusals := .none) :
    Except SettingsError Settings :=
  if !tree.pathExists here path then .ok none
  else
    match tree.readText here path refusals with
    | .error error => .error (.unreadable path error)
    | .ok text =>
      match ofText? text with
      | some settings => .ok settings
      | Option.none => .error (.malformed path malformedDetail)

/-- The settings for an installation directory. -/
def loadFor (env : Environment) (tree : FileTree) (directory : Path) :
    Except SettingsError Settings :=
  load tree env.workingDirectory (location env.settingsFile directory) env.refusals

end Settings

end BridgeSetup
