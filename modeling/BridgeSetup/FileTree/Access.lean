import BridgeSetup.FileTree.Refusals
import BridgeSetup.FileTree.Walk
import BridgeSetup.Text.Utf8

/-!
# Looking at a file tree

Questions about what a path names. Symbolic links are followed, and a path that cannot
be followed names nothing.
-/

namespace BridgeSetup.FileTree

/-- The node that a path names. -/
def find? (tree : FileTree) (here : Location) (path : Path) : Option Node :=
  match tree.locate here path with
  | .ok location => tree.get? location
  | .error _ => none

/-- Whether a path names anything. -/
def pathExists (tree : FileTree) (here : Location) (path : Path) : Bool :=
  (tree.find? here path).isSome

/-- Whether a path names a regular file. -/
def isFile (tree : FileTree) (here : Location) (path : Path) : Bool :=
  match tree.find? here path with
  | some (.file ..) => true
  | _ => false

/-- Whether a path names a directory. -/
def isDirectory (tree : FileTree) (here : Location) (path : Path) : Bool :=
  tree.find? here path = some .directory

/-- Whether permission bits let somebody execute a file. -/
def isExecutableMode (mode : Nat) : Bool :=
  mode &&& 0o111 ≠ 0

/-- Whether a path names a regular file that may be executed. -/
def isExecutable (tree : FileTree) (here : Location) (path : Path) : Bool :=
  match tree.find? here path with
  | some (.file _ mode) => isExecutableMode mode
  | _ => false

/-- The location of the regular file that a path names, if it may be executed. -/
def executableAt (tree : FileTree) (here : Location) (path : Path) :
    Except IoError Location := do
  let location ← tree.locate here path
  match tree.get? location with
  | some (.file _ mode) =>
    if isExecutableMode mode then .ok location else .error (.system .permissionDenied)
  | _ => .error (.system .permissionDenied)

/-- The contents of the regular file at a location; a directory can be opened, not read. -/
def readAt (tree : FileTree) (location : Location) : Except IoError Bytes :=
  match tree.get? location with
  | some (.file contents _) => .ok contents
  | some .directory => .error (.system .isADirectory)
  | _ => .error (.system .notFound)

/-- Opens what a path names for reading, and tells where it is. -/
def openForReading (tree : FileTree) (here : Location) (path : Path)
    (refusals : Refusals := .none) : Except IoError Location := do
  let location ← tree.locate here path
  Refusals.check (refusals.read location (tree.modeAt? location))
  return location

/-- The contents of the regular file that a path names. -/
def read (tree : FileTree) (here : Location) (path : Path) (refusals : Refusals := .none) :
    Except IoError Bytes := do
  tree.readAt (← tree.openForReading here path refusals)

/-- The text of the regular file that a path names. -/
def readText (tree : FileTree) (here : Location) (path : Path) (refusals : Refusals := .none) :
    Except IoError String := do
  match Utf8.decode? (← tree.read here path refusals) with
  | some text => .ok text
  | none => .error .notUtf8

end BridgeSetup.FileTree
