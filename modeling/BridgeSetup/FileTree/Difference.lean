import BridgeSetup.FileTree.Basic

/-!
# Differences between file trees

Which locations below a directory hold something else in a later tree than in an earlier
one. Both trees are read through `get?`, so a file written again with equal contents and
permission bits is no difference.
-/

namespace BridgeSetup.FileTree

/-- A location whose node differs between two trees, and the node of the later tree. -/
structure Difference where
  location : Location
  after : Option Node
  deriving Repr

/-- The locations of a tree that lie strictly below a directory. -/
def locationsBelow (tree : FileTree) (directory : Location) : List Location :=
  (tree.nodes.map (·.1)).filter fun location =>
    directory.isSuffixOf location && location != directory

/-- The differences below a directory, in no particular order. -/
def differences (directory : Location) (before after : FileTree) : List Difference :=
  let present := (after.locationsBelow directory).filterMap fun location =>
    if before.get? location = after.get? location then none
    else some ⟨location, after.get? location⟩
  let gone := (before.locationsBelow directory).filterMap fun location =>
    if (after.get? location).isSome then none else some ⟨location, none⟩
  present ++ gone

end BridgeSetup.FileTree
