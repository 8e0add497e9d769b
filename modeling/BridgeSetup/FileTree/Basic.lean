import BridgeSetup.Path.Basic
import BridgeSetup.Text.Bytes

/-!
# File trees

A file tree assigns a node to some locations: a regular file with contents and permission
bits, a directory, or a symbolic link. A location is the list of names on the way to the
root, innermost first, so that the parent directory is the tail of the list and one
location lies below another when the other is a suffix of it. The root is always a
directory.

`get?` is the view through which trees are compared: the order in which nodes were put
into a tree is not visible in it.
-/

namespace BridgeSetup

/-- A place in a file tree: the names from the place itself outwards to the root. -/
abbrev Location := List String

/-- What a file tree holds at a location. -/
inductive Node where
  /-- A regular file. -/
  | file (contents : Bytes) (mode : Nat)
  /-- A directory. -/
  | directory
  /-- A symbolic link. -/
  | link (target : Path)
  deriving DecidableEq, Repr

/-- A finite tree of files, directories and symbolic links. -/
structure FileTree where
  /-- The locations other than the root that hold something, each once. -/
  nodes : List (Location × Node)
  deriving Repr

namespace FileTree

/-- The tree with nothing below the root. -/
def empty : FileTree := ⟨[]⟩

/-- The node at a location. -/
def get? (tree : FileTree) (location : Location) : Option Node :=
  match location with
  | [] => some .directory
  | location => tree.nodes.lookup location

/-- The tree with a node put at a location. The root stays a directory. -/
def set (tree : FileTree) (location : Location) (node : Node) : FileTree :=
  ⟨(location, node) :: tree.nodes.filter (·.1 != location)⟩

/-- The tree without a location and everything below it. -/
def erase (tree : FileTree) (location : Location) : FileTree :=
  ⟨tree.nodes.filter fun entry => !location.isSuffixOf entry.1⟩

/-- Whether a location holds a directory. -/
def isDirectoryAt (tree : FileTree) (location : Location) : Bool :=
  tree.get? location = some .directory

/-- The contents of the regular file at a location. -/
def contentsAt? (tree : FileTree) (location : Location) : Option Bytes :=
  match tree.get? location with
  | some (.file contents _) => some contents
  | _ => none

/-- The permission bits of the regular file at a location. -/
def modeAt? (tree : FileTree) (location : Location) : Option Nat :=
  match tree.get? location with
  | some (.file _ mode) => some mode
  | _ => none

/-- The tree with other contents in the regular file at a location. -/
def setContents (tree : FileTree) (location : Location) (contents : Bytes) : FileTree :=
  match tree.get? location with
  | some (.file _ mode) => tree.set location (.file contents mode)
  | _ => tree

/-- The tree with other permission bits on the regular file at a location. -/
def setModeAt (tree : FileTree) (location : Location) (mode : Nat) : FileTree :=
  match tree.get? location with
  | some (.file contents _) => tree.set location (.file contents mode)
  | _ => tree

@[simp]
theorem get?_root (tree : FileTree) : tree.get? [] = some .directory := rfl

/-- A node is found where it was put. -/
@[simp]
theorem get?_set_self (tree : FileTree) {location : Location} (proper : location ≠ [])
    (node : Node) : (tree.set location node).get? location = some node := by
  cases location with
  | nil => exact absurd rfl proper
  | cons name outer => simp [get?, set]

private theorem lookup_filter_of_ne (nodes : List (Location × Node)) {location other : Location}
    (different : other ≠ location) :
    (nodes.filter (·.1 != location)).lookup other = nodes.lookup other := by
  induction nodes with
  | nil => rfl
  | cons entry rest ih =>
    obtain ⟨place, node⟩ := entry
    by_cases same : place = location
    · have apart : (other == place) = false := by simpa [same] using different
      have dropped : ((place != location) : Bool) = false := by simp [same]
      simp [List.filter, dropped, List.lookup_cons, apart, ih]
    · have kept : ((place != location) : Bool) = true := by simp [same]
      simp only [List.filter, kept, List.lookup_cons]
      split
      · rfl
      · exact ih

/-- Putting a node somewhere changes no other location. -/
@[simp]
theorem get?_set_of_ne (tree : FileTree) {location other : Location}
    (different : other ≠ location) (node : Node) :
    (tree.set location node).get? other = tree.get? other := by
  cases other with
  | nil => rfl
  | cons name outer =>
    have apart : ((name :: outer) == location) = false := by simpa using different
    simp only [get?, set, List.lookup_cons, apart]
    exact lookup_filter_of_ne tree.nodes different

end FileTree

end BridgeSetup
