import BridgeSetup.Text.Lines
import BridgeSetup.Text.Quoted

/-!
# Paths

A path is a text in which `/` separates segments. It is kept exactly as it was written;
empty segments, dots and trailing separators matter to the operating system and to
messages. `components` is the view in which two spellings of the same path agree.
-/

namespace BridgeSetup

/-- A path as it was written. -/
structure Path where
  text : String
  deriving DecidableEq, Repr

/-- A step that a path describes. -/
inductive Component where
  /-- The root directory, from which an absolute path starts. -/
  | root
  /-- A dot at the start of a relative path. -/
  | current
  /-- Two dots. -/
  | parent
  /-- A name. -/
  | normal (name : String)
  deriving DecidableEq, Repr

namespace Path

/-- The texts between the separators. -/
def segments (path : Path) : List String :=
  Text.splitAt '/' path.text

/-- Whether a path starts at the root directory. -/
def isAbsolute (path : Path) : Bool :=
  path.text.toList.head? = some '/'

/-- Whether a path contains the character that no path of the operating system can. -/
def hasNul (path : Path) : Bool :=
  path.text.toList.contains '\x00'

/-- The path of `inner` as seen from `base`; an absolute path is seen as itself. -/
def join (base inner : Path) : Path :=
  if inner.isAbsolute then inner
  else
    match base.text.toList.getLast? with
    | none => inner
    | some '/' => ⟨base.text ++ inner.text⟩
    | some _ => ⟨base.text ++ "/" ++ inner.text⟩

/-- A directory's entry of the given name. -/
def child (base : Path) (name : String) : Path :=
  base.join ⟨name⟩

/-- Whether a segment other than the first one of a relative path is passed over. -/
def isIdle (segment : String) : Bool :=
  segment = "" || segment = "."

/-- The component that a segment stands for. -/
def component? (segment : String) : Option Component :=
  if isIdle segment then none
  else if segment = ".." then some .parent
  else some (.normal segment)

/-- The components of a path: a leading `.` counts, later ones and empty segments do not. -/
def components (path : Path) : List Component :=
  if path.isAbsolute then .root :: path.segments.filterMap component?
  else
    match path.segments with
    | "." :: rest => .current :: rest.filterMap component?
    | segments => segments.filterMap component?

/-- A list of segments without the idle ones at its end. -/
def dropIdleEnd (segments : List String) : List String :=
  (segments.reverse.dropWhile isIdle).reverse

/-- The segments written one after the other. -/
def written (segments : List String) : String :=
  "/".intercalate segments

/-- The path without its last component, if it has one that is not the root. -/
def parent (path : Path) : Option Path :=
  if path.text = "" then none
  else
    match path.segments with
    | [] => none
    | first :: rest =>
      match dropIdleEnd rest with
      | [] => if path.isAbsolute then none else some ⟨""⟩
      | step :: steps =>
        match dropIdleEnd (step :: steps).dropLast with
        | [] => if path.isAbsolute then some ⟨"/"⟩ else some ⟨first⟩
        | kept => some ⟨written (first :: kept)⟩

/-- A path, its parent, the parent of that, and so on. -/
def ancestorsWithin : Nat → Path → List Path
  | 0, _ => []
  | steps + 1, path =>
    path :: match path.parent with
      | none => []
      | some up => ancestorsWithin steps up

/-- A path and all paths that are reached from it by dropping last components. -/
def ancestors (path : Path) : List Path :=
  ancestorsWithin (path.segments.length + 1) path

/-- The name that a path ends with, if it ends with a name. -/
def fileName (path : Path) : Option String :=
  match path.components.getLast? with
  | some (.normal name) => some name
  | _ => none

/-- A file name up to its last dot; a dot at the start does not count. -/
def stem (name : String) : String :=
  match (Text.pieces '.' name.toList).reverse with
  | _ :: earlier =>
    let front := ['.'].intercalate earlier.reverse
    if front.isEmpty then name else String.ofList front
  | [] => name

/-- The name that a path ends with, without its extension. -/
def fileStem (path : Path) : Option String :=
  path.fileName.map stem

/-- A path as diagnostics show it. -/
def quoted (path : Path) : String :=
  Text.quoted path.text

end Path

end BridgeSetup
