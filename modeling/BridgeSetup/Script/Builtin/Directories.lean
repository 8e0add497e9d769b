import BridgeSetup.Path.Normalize
import BridgeSetup.Script.Builtin.Operands
import BridgeSetup.Script.Format

/-!
# Directories

The commands about the directory in which a script works and the rights of new files. A
script remembers the path by which it reached its directory; two dots lead back along that
path unless a physical path is asked for.
-/

namespace BridgeSetup.Script.Builtin

/-- The segments of a path after those that lead down and up again are left out, the last
one first. -/
def reduced : (before : List ByteText) → List ByteText → List ByteText
  | before, [] => before
  | before, segment :: rest =>
    match String.ofList segment with
    | "" | "." => reduced before rest
    | ".." => reduced before.tail rest
    | _ => reduced (segment :: before) rest

/-- The directory that a path names for a script that works in `path`. -/
def resolvedPath (path target : ByteText) : ByteText :=
  let start := if target.head? = some '/' then [] else path
  let segments := reduced [] ((start ++ '/' :: target).splitOnP (· = '/'))
  '/' :: List.intercalate ['/'] segments.reverse

/-- The path of a location. -/
def pathOfLocation (location : Location) : ByteText :=
  ofText (Path.ofNames true location.reverse).text

/-- Goes to a directory and tells whether it is one. -/
def goTo (isPhysical : Bool) (target : ByteText) : Action Bool := do
  let shell ← get
  let path := if isPhysical then target else resolvedPath shell.path target
  match shell.files.locate shell.here (pathOf path) with
  | .ok location =>
    if shell.files.isDirectoryAt location then
      let path := if isPhysical then pathOfLocation location else path
      let old : Variable :=
        { name := "OLDPWD".toList, value := some shell.path, isExported := true }
      let new : Variable := { name := "PWD".toList, value := some path, isExported := true }
      set { (shell.withVariable old).withVariable new with here := location, path }
      return true
    else return false
  | .error _ => return false

/-- Goes to another directory. -/
def cd (operands : List ByteText) : Action Unit := do
  let (letters, operands) ← takeOptions ['L', 'P'] operands
  let shell ← get
  let (target, isShown) :=
    match operands with
    | [] => ((shell.value? "HOME").getD [], false)
    | ['-'] :: _ => ((shell.value? "OLDPWD").getD [], true)
    | target :: _ => (target, false)
  let target := if target.isEmpty then ['.'] else target
  if ← goTo (letters.getLast? = some 'P') target then
    let path := (← get).path
    reply (if isShown then path ++ ['\n'] else [])
  else Action.fail ("can't cd to ".toList ++ target)

/-- Writes the directory in which the script works. -/
def pwd (operands : List ByteText) : Action Unit := do
  let (letters, _) ← takeOptions ['L', 'P'] operands
  let shell ← get
  let path := if letters.getLast? = some 'P' then pathOfLocation shell.here else shell.path
  reply (path ++ ['\n'])

/-- Four octal digits. -/
def octalMode (mode : Nat) : ByteText :=
  let digits := Nat.toDigits 8 mode
  List.replicate (4 - digits.length) '0' ++ digits

/-- Changes or shows the permission bits that new files do not get. -/
def umask (operands : List ByteText) : Action Unit := do
  let (_, operands) ← takeOptions [] operands
  match operands with
  | [] => reply (octalMode (← get).mask ++ ['\n'])
  | operand :: _ =>
    if !operand.isEmpty && operand.all isOctal then
      modify ({ · with mask := octalValue operand % 0o1000, status := 0 })
    else
      let fault := if operand.head?.any Char.isDigit then "Illegal number: " else "Illegal mode: "
      Action.fail (fault.toList ++ operand)

end BridgeSetup.Script.Builtin
