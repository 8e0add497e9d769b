import BridgeSetup.Process.Start

/-!
# Searching for executables

The search that finds a program to be named in messages and settings, as opposed to
starting it. It yields absolute paths: an absolute path or one of several components is
taken from the working directory, and a single name is joined to each entry of the search
path, where a tilde at the start of an entry stands for the home directory. Only an entry
that starts with a tilde also after that stays relative. The first candidate that is an
executable regular file is the result.
-/

namespace BridgeSetup

/-- Why no executable was found. -/
inductive SearchFailure where
  /-- No candidate is an executable file. -/
  | notFound
  /-- There is no search path. -/
  | noSearchPath
  deriving DecidableEq, Repr

/-- What is said about a search without result. -/
def SearchFailure.message : SearchFailure → String
  | notFound => "cannot find binary path"
  | noSearchPath => "no path to search and provided name is not an absolute path"

/-- A component as a path of its own. -/
def Component.path : Component → Path
  | .root => ⟨"/"⟩
  | .current => ⟨"."⟩
  | .parent => ⟨".."⟩
  | .normal name => ⟨name⟩

/-- A path with further components joined to it. -/
def extended (base : Path) (components : List Component) : Path :=
  components.foldl (fun base step => base.join step.path) base

namespace Environment

/-- An absolute path as it is, another one as seen from the working directory and without
a dot at its start. -/
def absolutePath (env : Environment) (path : Path) : Path :=
  if path.isAbsolute then path
  else extended env.workingPath (path.components.dropWhile (· = .current))

/-- A path in which a tilde at the start is replaced by the home directory, if there is
one. -/
def expandTilde (env : Environment) (path : Path) : Path :=
  match path.components, env.home with
  | .normal "~" :: rest, some home => if home = "" then path else extended ⟨home⟩ rest
  | _, _ => path

/-- Whether a path starts with a tilde as a name of its own. -/
def startsWithTilde (path : Path) : Bool :=
  path.components.head? = some (.normal "~")

/-- The directory that an entry of the search path stands for. -/
def searchedDirectory (env : Environment) (entry : String) : Path :=
  let directory := env.expandTilde ⟨entry⟩
  if startsWithTilde directory then directory else env.absolutePath directory

/-- The paths at which a program may be found, in the order of preference. -/
def searchCandidates (env : Environment) (program : Path) : Except SearchFailure (List Path) :=
  if program.isAbsolute || 1 < program.components.length then .ok [env.absolutePath program]
  else
    match env.searchPath with
    | none => .error .noSearchPath
    | some entries =>
      .ok ((Text.splitAt ':' entries).map fun entry =>
        (env.searchedDirectory entry).join program)

/-- The absolute path of an executable. -/
def search (env : Environment) (tree : FileTree) (program : Path) :
    Except SearchFailure Path := do
  let candidates ← env.searchCandidates program
  match candidates.find? (tree.isExecutable env.workingDirectory) with
  | some path => .ok path
  | none => .error .notFound

end Environment

end BridgeSetup
