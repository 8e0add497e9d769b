import BridgeSetup.Path.Basic

/-!
# Lexical normalization

`normalize` simplifies a path without looking at any file: dots disappear, and two dots
cancel the name before them. At the root there is nothing to cancel and they disappear;
at the start of a relative path they stay. The empty result is written as a single dot.
-/

namespace BridgeSetup.Path

/-- The names kept after one more component, innermost first. -/
def reduceStep (absolute : Bool) (kept : List String) : Component → List String
  | .root | .current => kept
  | .normal name => name :: kept
  | .parent =>
    match kept with
    | [] => if absolute then [] else [".."]
    | name :: outer => if name = ".." then ".." :: kept else outer

/-- The names that remain of a list of components, outermost first. -/
def reduce (absolute : Bool) (components : List Component) : List String :=
  (components.foldl (reduceStep absolute) []).reverse

/-- The path with the given names. -/
def ofNames (absolute : Bool) (names : List String) : Path :=
  if absolute then ⟨"/" ++ written names⟩
  else if names.isEmpty then ⟨"."⟩
  else ⟨written names⟩

/-- The canonical spelling of a path, found without looking at any file. -/
def normalize (path : Path) : Path :=
  ofNames path.isAbsolute (reduce path.isAbsolute path.components)

end BridgeSetup.Path
