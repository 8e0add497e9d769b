import BridgeSetup.FileTree.Change
import BridgeSetup.Path.Normalize
import BridgeSetup.Process.Outcome

/-!
# Starting programs

A program is named by a path. A path with a separator is looked up from the working
directory; a bare name is looked up in the directories of the search path, where an entry
that cannot be used is passed over. What a program does once it has been found is a
parameter, `Programs`: it may change the file tree, and ends with an exit code and some
output, or the operating system refuses to execute the file.
-/

namespace BridgeSetup

/-- A program that is started: where it is, the path under which it was found, its arguments,
and the variables of the environment that it gets. -/
structure Invocation where
  file : Location
  path : Path
  arguments : List String
  workingDirectory : Location
  bindings : List (String × String)
  deriving DecidableEq, Repr

/-- What programs do: the way each ends, and the tree that it leaves. -/
abbrev Programs := Invocation → FileTree → Except Fault Finished × FileTree

/-- What came of an attempt to start a program: how the program ended or why it could not be
started, the tree that is left, and what was executed. -/
structure Attempt where
  result : Except IoError Finished
  files : FileTree
  started : List Invocation

/-- A log file that is open for writing: where it is, and the time that its lines show. -/
structure LogFile where
  file : Location
  time : String
  deriving DecidableEq, Repr

/-- What a run takes from its surroundings. -/
structure Environment where
  /-- The directory from which relative paths are looked up. -/
  workingDirectory : Location
  /-- The variables of the environment, which programs that are started get, too. -/
  bindings : List (String × String)
  /-- The path of the running program. -/
  executable : Path
  /-- What other programs do. -/
  programs : Programs
  /-- What the operating system refuses. -/
  refusals : Refusals := .none
  /-- The file that receives the log, if it goes to a file. -/
  logFile : Option LogFile := none

namespace Environment

/-- The directories in which bare program names are looked up, separated by colons. -/
def searchPath (env : Environment) : Option String :=
  env.bindings.lookup "PATH"

/-- The home directory of the user. -/
def home (env : Environment) : Option String :=
  env.bindings.lookup "HOME"

/-- The settings file named by the environment. -/
def settingsFile (env : Environment) : Option String :=
  env.bindings.lookup "BEAMPY_CONFIG"

/-- The directories that are searched when the environment names none. -/
def defaultSearchPath : String := "/bin:/usr/bin"

/-- The working directory as a path. -/
def workingPath (env : Environment) : Path :=
  Path.ofNames true env.workingDirectory.reverse

/-- The directories in which a search path has a bare name looked up. The working directory
stands in for an entry that is longer than any path, unless it is the last one. -/
def searchEntries : List String → List String
  | [] => []
  | [last] => if maxPathLength < last.utf8ByteSize then [] else [last]
  | entry :: rest =>
    (if maxPathLength < entry.utf8ByteSize then "" else entry) :: searchEntries rest

/-- A bare name as far as it is looked at. What is cut off is too long for a name anyway. -/
def lookedAt (name : String) : String :=
  String.ofList (name.toList.take (maxNameLength + 1))

/-- The path under which a program is tried in one directory of the search path. -/
def candidate (name directory : String) : Path :=
  if directory = "" then ⟨lookedAt name⟩ else ⟨directory ++ "/" ++ lookedAt name⟩

/-- Starts the program at a path. -/
def startAt (env : Environment) (tree : FileTree) (path : Path) (arguments : List String) :
    Attempt :=
  match tree.executableAt env.workingDirectory path with
  | .error error => ⟨.error error, tree, []⟩
  | .ok location =>
    let invocation := ⟨location, path, arguments, env.workingDirectory, env.bindings⟩
    match env.programs invocation tree with
    | (.ok finished, left) => ⟨.ok finished, left, [invocation]⟩
    | (.error fault, left) => ⟨.error (.system fault), left, []⟩

/-- Whether a fault lets the search for a bare name go on in the next directory. -/
def isPassedOver (fault : Fault) : Bool :=
  fault = .permissionDenied || fault = .notFound || fault = .notADirectory

/-- The fault to be reported after one more directory was passed over: that a candidate may
not be executed is remembered, and the last fault counts otherwise. -/
def remembered (earlier latest : Fault) : Fault :=
  if earlier = .permissionDenied then earlier else latest

/-- Tries a bare name in one directory of the search path after the other, where `fault` is
reported if there are no more. -/
def startAlong (env : Environment) (name : String) (arguments : List String) :
    (tree : FileTree) → (fault : Fault) → List String → Attempt
  | tree, fault, [] => ⟨.error (.system fault), tree, []⟩
  | tree, fault, directory :: rest =>
    let attempt := env.startAt tree (candidate name directory) arguments
    match attempt.result with
    | .error (.system latest) =>
      if isPassedOver latest then
        env.startAlong name arguments attempt.files (remembered fault latest) rest
      else attempt
    | _ => attempt

/-- Starts a program. -/
def start (env : Environment) (tree : FileTree) (program : Path) (arguments : List String) :
    Attempt :=
  if program.hasNul || arguments.any (·.toList.contains '\x00') then
    ⟨.error .nulInArgument, tree, []⟩
  else if program.text = "" then ⟨.error (.system .notFound), tree, []⟩
  else if program.text.toList.contains '/' then env.startAt tree program arguments
  else
    env.startAlong program.text arguments tree .notFound
      (searchEntries (Text.splitAt ':' (env.searchPath.getD defaultSearchPath)))

end Environment

end BridgeSetup
