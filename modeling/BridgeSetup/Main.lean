import Std.Time.Format
import BridgeSetup.CommandLine.Program
import BridgeSetup.FileTree.Difference
import BridgeSetup.Script.Programs

/-!
# The outer layer of the program

Reads what an invocation depends on into values, carries it out on these values, and
writes back what has changed. The file tree of an invocation consists of the places that
its command line and its settings name. Permission bits cannot be read: a file counts as
executable if it starts like a script.
-/

namespace BridgeSetup.Outer

/-- The permission bits that a file with the given contents is taken to have. -/
def modeOf (contents : Bytes) : Nat :=
  if [35, 33].isPrefixOf contents then 0o755 else FileTree.defaultMode

/-- Reads one place of the disk into a tree, with the directories on the way to it; `whole`
tells whether everything below it is read too. -/
partial def readPlace (whole : Bool) (location : Location) (tree : FileTree) : IO FileTree := do
  let tree ← match location with
    | [] => pure tree
    | _ :: outer => readPlace false outer tree
  let place := System.mkFilePath [(Path.ofNames true location.reverse).text]
  try
    match (← place.symlinkMetadata).type with
    | .file =>
      let contents := (← IO.FS.readBinFile place).toList
      return tree.set location (.file contents (modeOf contents))
    | .symlink =>
      let target : Path := ⟨(← IO.FS.realPath place).toString⟩
      readPlace whole (target.segments.filter (· ≠ "")).reverse
        (tree.set location (.link target))
    | .dir =>
      let made := if location.isEmpty then tree else tree.set location .directory
      if whole then
        (← place.readDir).foldlM
          (fun tree entry => readPlace true (entry.fileName :: location) tree) made
      else return made
    | .other => return tree
  catch _ => return tree

/-- The location that a path names if there are no links on the way. -/
def locationOf (env : Environment) (path : Path) : Location :=
  ((env.workingPath.join path).normalize.segments.filter (· ≠ "")).reverse

/-- Reads what several paths name into a tree. -/
def readAll (env : Environment) (whole : Bool) (paths : List Path) (tree : FileTree) :
    IO FileTree :=
  paths.foldlM (fun tree path => readPlace whole (locationOf env path) tree) tree

/-- Reads the candidates for an interpreter into a tree. -/
def readInterpreters (env : Environment) (requested : Option Path) (tree : FileTree) :
    IO FileTree := do
  let names := requested.toList ++ Interpreter.candidates.map Path.mk
  let directories := Text.splitAt ':' (env.searchPath.getD "")
  let found := directories.flatMap fun directory =>
    names.map fun name => (Path.mk directory).join name
  readAll env false (requested.toList ++ found) tree

/-- A tree with the command interpreter in its place. -/
def withShell (tree : FileTree) : FileTree :=
  (tree.set Script.shellLocation.tail .directory).set Script.shellLocation Script.shellFile

/-- The file tree that a command line is carried out on. -/
def readTree (env : Environment) (arguments : CommandLine.Arguments) : IO FileTree := do
  let directory := arguments.installDir.getD (env.executable.parent.getD ⟨"/"⟩)
  let settings := Settings.location env.settingsFile directory
  let tree ← readAll env false
    (⟨"."⟩ :: settings :: Configure.bundledRuntime directory :: arguments.logFile.toList) .empty
  let tree ← readAll env true [directory, arguments.javaModule] tree
  let named := (Settings.loadFor env tree directory).toOption.bind Settings.python
  withShell <$> readInterpreters env (arguments.python.or named) tree

/-- The rights of one class of users in permission bits. -/
def rightsOf (bits : Nat) : IO.AccessRight :=
  ⟨bits &&& 4 ≠ 0, bits &&& 2 ≠ 0, bits &&& 1 ≠ 0⟩

/-- Writes one change of a tree to the disk. -/
def writeChange (change : FileTree.Difference) : IO Unit := do
  let place := (Path.ofNames true change.location.reverse).text
  match change.after with
  | some .directory => IO.FS.createDirAll place
  | some (.file contents mode) =>
    IO.FS.writeBinFile place ⟨contents.toArray⟩
    IO.setAccessRights place ⟨rightsOf (mode / 64), rightsOf (mode / 8), rightsOf mode⟩
  | _ => return

/-- Writes the differences of two trees to the disk, outer places first. -/
def writeChanges (before after : FileTree) : IO Unit := do
  let changes := FileTree.differences [] before after
  let ordered := changes.mergeSort fun first second =>
    first.location.length ≤ second.location.length
  ordered.forM writeChange

/-- The variables of this process that a run looks at. -/
def bindings : IO (List (String × String)) := do
  let entries ← ["PATH", "HOME", "BEAMPY_CONFIG"].mapM fun name => do
    return (← IO.getEnv name).map (name, ·)
  return entries.filterMap id

/-- The environment of this process. -/
def environment : IO Environment := do
  let here : Path := ⟨(← IO.currentDir).toString⟩
  return {
    workingDirectory := (here.segments.filter (· ≠ "")).reverse
    bindings := ← bindings
    executable := ⟨(← IO.appPath).toString⟩
    programs := Script.programs }

/-- What this process is connected to. -/
def terminal : IO Program.Terminal := do
  let isConsole ← (← IO.getStderr).isTty
  let forced := Program.forcesColour (← IO.getEnv "CLICOLOR_FORCE")
  let now ← Std.Time.PlainDateTime.now
  return ⟨isConsole || forced, now.format "uuuu-MM-dd HH:mm:ss"⟩

/-- Carries out a command line in this process, and returns its exit status. -/
def run (arguments : List String) : IO UInt32 := do
  let env ← environment
  let before ←
    match CommandLine.parse arguments with
    | .ok parsed => readTree env parsed
    | .error _ => pure FileTree.empty
  let outcome := Program.run env (← terminal) arguments before
  writeChanges before outcome.files
  IO.print outcome.stdout
  IO.eprint outcome.stderr
  return outcome.status.toNat.toUInt32

end BridgeSetup.Outer

/-- Carries out the command line of this process. -/
def main (arguments : List String) : IO UInt32 :=
  BridgeSetup.Outer.run arguments
