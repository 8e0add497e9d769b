import BridgeSetup.Interpreter.Runtime
import BridgeSetup.Process.Search
import BridgeSetup.Run.Session

/-!
# Choosing and probing the interpreter

An interpreter that is asked for is taken as it is when it names a regular file, and is
searched for otherwise; there is no other choice then. When none is asked for, the
candidates are searched for one after the other. Probing runs the interpreter once.
-/

namespace BridgeSetup.Interpreter

/-- The names that are searched for when no interpreter is asked for. -/
def candidates : List String := ["python3", "python"]

/-- What the interpreter is given to run when it is probed. -/
def probeScript : String :=
  "import platform, sys, sysconfig\n" ++
  "print(sysconfig.get_platform())\n" ++
  "print(sysconfig.get_python_version())\n" ++
  "print(platform.machine())\n" ++
  "print(64 if sys.maxsize > 2**32 else 32)"

/-- The first of several names under which an executable is found. -/
def findAmong (env : Environment) : List String → Task DiscoveryError Path
  | [] =>
    throw (.noInterpreter
      ("none of " ++ ", ".intercalate candidates ++ " is on PATH; pass --python"))
  | name :: others => do
    match ← Task.look (env.search · ⟨name⟩) with
    | .ok path =>
      Task.say env .debug ("Found " ++ name ++ " at " ++ path.text)
      return path
    | .error _ =>
      Task.say env .debug (name ++ " not found on PATH")
      findAmong env others

/-- The interpreter to configure the bridge for. -/
def find (env : Environment) (requested : Option Path) : Task DiscoveryError Path := do
  match requested with
  | none => findAmong env candidates
  | some path =>
    if ← Task.look (·.isFile env.workingDirectory path) then return path
    match ← Task.look (env.search · path) with
    | .ok found => return found
    | .error failure =>
      throw (.noInterpreter ("'" ++ path.text ++ "': " ++ failure.message))

/-- Starts a program and notes it; a program that does not start is a failure. -/
def start {ε : Type} (env : Environment) (wrap : IoError → ε) (program : Path)
    (arguments : List String) : Task ε Finished := do
  let attempt ← Task.look (env.start · program arguments)
  Task.putFiles attempt.files
  Task.note (attempt.started.map .start)
  Task.ofExcept (attempt.result.mapError wrap)

/-- Runs an interpreter once to learn what the setup needs to know. -/
def probe (env : Environment) (executable : Path) : Task DiscoveryError Runtime := do
  Task.say env .debug ("Probing Python at: " ++ executable.text)
  let finished ← start env (.notStarted executable) executable ["-c", probeScript]
  Task.sayAll env (finished.entries (executable.text ++ " -c <probe>"))
  if !finished.exit.isSuccess then
    throw (.probeFailed executable (finished.exit.code?.map Int.ofNat)
      (Utf8.decodeLossy finished.stderr))
  let runtime ← Task.ofExcept
    (Runtime.ofProbeOutput executable (Utf8.decodeLossy finished.stdout))
  Task.say env .info
    ("using Python " ++ runtime.version ++ " (" ++ runtime.platform ++ ", " ++
      toString runtime.bits ++ " bit) at '" ++ runtime.executable.text ++ "'")
  return runtime

end BridgeSetup.Interpreter
