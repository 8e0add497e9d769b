import BridgeSetup.FileTree.Access

/-!
# Changing a file tree

Operations that write files and make directories. An operation that fails keeps what it
has done so far: it is a computation over a tree that may stop with a failure and leaves
a tree either way. What the operating system refuses is handed over; if nothing is, nothing is
refused.
-/

namespace BridgeSetup

/-- A computation over a file tree that may fail, and leaves a tree also when it does. -/
abbrev TreeAction (α : Type) := ExceptT IoError (StateM FileTree) α

namespace TreeAction

/-- The result of an action on a tree, and the tree that it leaves. -/
def runOn {α : Type} (action : TreeAction α) (tree : FileTree) : Except IoError α × FileTree :=
  action tree

/-- An action that stops with a failure, or goes on with a value, and changes nothing. -/
def ofExcept {α : Type} (result : Except IoError α) : TreeAction α :=
  fun tree => (result, tree)

/-- An action that asks a question about the tree. -/
def look {α : Type} (question : FileTree → Except IoError α) : TreeAction α :=
  fun tree => (question tree, tree)

/-- An action that changes the tree and cannot fail. -/
def change (f : FileTree → FileTree) : TreeAction Unit :=
  fun tree => (.ok (), f tree)

end TreeAction

namespace FileTree

/-- The permission bits of a regular file that is made without asking for others. -/
def defaultMode : Nat := 0o644

/-- Opens the regular file at a location for writing: it is emptied if it exists, keeping
its permission bits, and made otherwise. -/
def openAt (location : Location) (refusals : Refusals := .none) : TreeAction Unit := fun tree =>
  if tree.isDirectoryAt location then (.error (.system .isADirectory), tree)
  else
    let mode := tree.modeAt? location
    match refusals.write location mode with
    | some fault => (.error (.system fault), tree)
    | none => (.ok (), tree.set location (.file [] (mode.getD defaultMode)))

/-- Opens the regular file that a path names for writing, and tells where it is. -/
def openForWriting (here : Location) (path : Path) (refusals : Refusals := .none) :
    TreeAction Location := do
  let location ← TreeAction.look (·.locateTarget here path)
  openAt location refusals
  return location

/-- Writes data to the empty file at a location. What there is no space for is left out. -/
def fillAt (location : Location) (data : Bytes) (refusals : Refusals := .none) :
    TreeAction Unit := do
  TreeAction.change (·.setContents location (refusals.admitted location data))
  TreeAction.ofExcept (Refusals.check (refusals.overflow location data))

/-- Writes the whole contents of the regular file that a path names. -/
def writeFile (here : Location) (path : Path) (contents : Bytes)
    (refusals : Refusals := .none) : TreeAction Unit := do
  let location ← openForWriting here path refusals
  fillAt location contents refusals

/-- The tree with bytes added to the regular file at a location. -/
def appendAt (tree : FileTree) (location : Location) (bytes : Bytes) : FileTree :=
  match tree.contentsAt? location with
  | some contents => tree.setContents location (contents ++ bytes)
  | none => tree

/-- The tree with bytes written at a distance from the start of the regular file at a
location; a gap is filled with zeros. -/
def writeAt (tree : FileTree) (location : Location) (offset : Nat) (bytes : Bytes) : FileTree :=
  match tree.contentsAt? location with
  | some contents =>
    let before := contents.take offset
    let gap := List.replicate (offset - contents.length) 0
    tree.setContents location (before ++ gap ++ bytes ++ contents.drop (offset + bytes.length))
  | none => tree

/-- The location at which a directory of the given path would be made. -/
def newDirectoryAt (tree : FileTree) (here : Location) (path : Path) :
    Except IoError Location := do
  checkPath path
  match ← fromSystem (tree.enclosing (path.startFrom here) path.segments) with
  | none => .error (.system .alreadyExists)
  | some (directory, last) =>
    if last = "." || last = ".." then .error (.system .alreadyExists)
    else if maxNameLength < last.utf8ByteSize then .error (.system .nameTooLong)
    else if (tree.get? (last :: directory)).isSome then .error (.system .alreadyExists)
    else .ok (last :: directory)

/-- Makes one directory in an existing one. -/
def makeDirectory (here : Location) (path : Path) (refusals : Refusals := .none) :
    TreeAction Unit := do
  let location ← TreeAction.look (·.newDirectoryAt here path)
  TreeAction.ofExcept (Refusals.check (refusals.makeDirectory location))
  TreeAction.change (·.set location .directory)

/-- Makes the first of several paths a directory, where each path is the parent of the
one before it: missing ancestors are made first, and what is a directory already is left
alone. -/
def makeAlong (here : Location) (refusals : Refusals) : List Path → TreeAction Unit
  | [] => throw .noAncestor
  | path :: ancestors =>
    if path.text = "" then pure ()
    else fun tree =>
      match (makeDirectory here path refusals).runOn tree with
      | (.ok (), made) => (.ok (), made)
      | (.error (.system .notFound), _) =>
        match (makeAlong here refusals ancestors).runOn tree with
        | (.error error, left) => (.error error, left)
        | (.ok (), left) =>
          match (makeDirectory here path refusals).runOn left with
          | (.ok (), made) => (.ok (), made)
          | (.error error, kept) =>
            if kept.isDirectory here path then (.ok (), kept) else (.error error, kept)
      | (.error error, kept) =>
        if kept.isDirectory here path then (.ok (), kept) else (.error error, kept)

/-- Makes a directory and all its missing ancestors. -/
def makeDirectories (here : Location) (path : Path) (refusals : Refusals := .none) :
    TreeAction Unit :=
  makeAlong here refusals path.ancestors

/-- Sets the permission bits of the regular file that a path names. -/
def setMode (here : Location) (path : Path) (mode : Nat) (refusals : Refusals := .none) :
    TreeAction Unit := do
  let location ← TreeAction.look (·.locate here path)
  TreeAction.ofExcept (Refusals.check (refusals.setMode location))
  TreeAction.change (·.setModeAt location mode)

/-- Makes a symbolic link. Its target need not exist, but must be a path. -/
def makeLink (here : Location) (path target : Path) : TreeAction Unit := do
  TreeAction.ofExcept (checkPath target)
  let location ← TreeAction.look (·.newDirectoryAt here path)
  TreeAction.change (·.set location (.link target))

/-- Removes what a path names, with everything below it; a symbolic link itself is removed,
not what it leads to. -/
def remove (here : Location) (path : Path) : TreeAction Unit := do
  let location ← TreeAction.look fun tree => do
    checkPath path
    match ← fromSystem (tree.enclosing (path.startFrom here) path.segments) with
    | none => .error (.system .isADirectory)
    | some (directory, last) =>
      if maxNameLength < last.utf8ByteSize then .error (.system .nameTooLong)
      else if (tree.get? (last :: directory)).isSome then .ok (last :: directory)
      else .error (.system .notFound)
  TreeAction.change (·.erase location)

end FileTree

end BridgeSetup
