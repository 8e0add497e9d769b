import BridgeSetup.FileTree.Basic
import BridgeSetup.FileTree.Fault

/-!
# Walking through a file tree

`walk` finds the location that a list of segments leads to, the way an operating system
does: it goes from directory to directory, stays for empty segments and dots, goes to the
parent for two dots (the root is its own parent), and continues with the target of a
symbolic link when it meets one. At most `maxLinks` links are followed.

`place` finds the location at which a path to be written would put a regular file. It
differs in the last name: nothing need be there, and a name that is followed by a
separator is refused. Links on the way to the last name and at the last name count together.
-/

namespace BridgeSetup

/-- The number of symbolic links after which a walk is given up. -/
def maxLinks : Nat := 40

/-- The greatest length of a name in bytes. -/
def maxNameLength : Nat := 255

/-- The greatest length of a path in bytes. -/
def maxPathLength : Nat := 4095

/-- Where a walk along a path begins. -/
def Path.startFrom (path : Path) (here : Location) : Location :=
  if path.isAbsolute then [] else here

namespace FileTree

/-- Goes through segments, handing over to `follow` at the first symbolic link with the
link's target, the directory that contains the link and the remaining segments. -/
def stepThrough (tree : FileTree)
    (follow : Path → Location → List String → Except Fault Location) :
    Location → List String → Except Fault Location
  | here, [] => .ok here
  | here, segment :: rest =>
    if !tree.isDirectoryAt here then .error .notADirectory
    else if Path.isIdle segment then stepThrough tree follow here rest
    else if segment = ".." then stepThrough tree follow here.tail rest
    else if maxNameLength < segment.utf8ByteSize then .error .nameTooLong
    else
      match tree.get? (segment :: here) with
      | none => .error .notFound
      | some (.link target) => follow target here rest
      | some _ => stepThrough tree follow (segment :: here) rest

/-- The location reached from `here` along the segments, with at most `links` symbolic
links on the way. -/
def walk (tree : FileTree) : (links : Nat) → (here : Location) → List String →
    Except Fault Location
  | 0, here, segments => tree.stepThrough (fun _ _ _ => .error .tooManyLinks) here segments
  | links + 1, here, segments =>
    tree.stepThrough
      (fun target origin rest =>
        tree.walk links (target.startFrom origin) (target.segments ++ rest))
      here segments

/-- A list of segments without the empty ones at its end. -/
def dropEmptyEnd (segments : List String) : List String :=
  (segments.reverse.dropWhile (· = "")).reverse

/-- The directory reached by all but the last of the segments, and the last one. Empty
segments at the end do not count; there is no last segment in the root's path. -/
def enclosing (tree : FileTree) (here : Location) (segments : List String) :
    Except Fault (Option (Location × String)) :=
  match (dropEmptyEnd segments).getLast? with
  | none => .ok none
  | some last => do
    let directory ← tree.walk maxLinks here (dropEmptyEnd segments).dropLast
    if tree.isDirectoryAt directory then .ok (some (directory, last)) else .error .notADirectory

/-- The location that the last segment of a path names in a directory, where `slashed` tells
whether a separator follows it. Dots and a separator can only name a directory. A symbolic
link is handed over to `follow`. -/
def placeLast (tree : FileTree)
    (follow : Path → Location → List String → Except Fault Location)
    (directory : Location) (last : String) (slashed : Bool) : Except Fault Location :=
  if last = "." || last = ".." || slashed then .error .isADirectory
  else if maxNameLength < last.utf8ByteSize then .error .nameTooLong
  else
    match tree.get? (last :: directory) with
    | some (.link target) => follow target directory []
    | _ => .ok (last :: directory)

/-- Goes through segments to the place of a regular file, handing over to `follow` like
`stepThrough`. -/
def stepToPlace (tree : FileTree)
    (follow : Path → Location → List String → Except Fault Location) :
    Location → List String → Except Fault Location
  | here, [] => .ok here
  | here, segment :: rest =>
    if !tree.isDirectoryAt here then .error .notADirectory
    else if segment = "" then stepToPlace tree follow here rest
    else if rest.all (· = "") then tree.placeLast follow here segment (!rest.isEmpty)
    else if segment = "." then stepToPlace tree follow here rest
    else if segment = ".." then stepToPlace tree follow here.tail rest
    else if maxNameLength < segment.utf8ByteSize then .error .nameTooLong
    else
      match tree.get? (segment :: here) with
      | none => .error .notFound
      | some (.link target) => follow target here rest
      | some _ => stepToPlace tree follow (segment :: here) rest

/-- The location at which the segments would put a regular file, with at most `links`
symbolic links on the way. -/
def place (tree : FileTree) : (links : Nat) → (here : Location) → List String →
    Except Fault Location
  | 0, here, segments => tree.stepToPlace (fun _ _ _ => .error .tooManyLinks) here segments
  | links + 1, here, segments =>
    tree.stepToPlace
      (fun target origin rest =>
        tree.place links (target.startFrom origin) (target.segments ++ rest))
      here segments

/-- A path that the operating system accepts, checked before any walk. -/
def checkPath (path : Path) : Except IoError Unit :=
  if path.hasNul then .error .nulInPath
  else if path.text = "" then .error (.system .notFound)
  else if maxPathLength < path.text.utf8ByteSize then .error (.system .nameTooLong)
  else .ok ()

/-- A result of the operating system as a result of a file operation. -/
def fromSystem {α : Type} : Except Fault α → Except IoError α
  | .ok value => .ok value
  | .error fault => .error (.system fault)

/-- The location of what a path names, seen from the directory `here`. -/
def locate (tree : FileTree) (here : Location) (path : Path) : Except IoError Location := do
  checkPath path
  fromSystem (tree.walk maxLinks (path.startFrom here) path.segments)

/-- The location at which writing to a path would put a regular file. -/
def locateTarget (tree : FileTree) (here : Location) (path : Path) :
    Except IoError Location := do
  checkPath path
  fromSystem (tree.place maxLinks (path.startFrom here) path.segments)

end FileTree

end BridgeSetup
