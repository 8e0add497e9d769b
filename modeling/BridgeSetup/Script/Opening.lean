import BridgeSetup.Script.Expansion
import BridgeSetup.Script.Token

/-!
# Redirections

What redirections do to the streams of a command. Their words are expanded first, all of
them, to `Opening`s; these are carried out one after the other up to one that fails.
-/

namespace BridgeSetup.Script

/-- A redirection whose words are expanded. -/
inductive Opening where
  | file (stream : Nat) (mode : OpenMode) (target : ByteText)
  | same (stream other : Nat)
  | closed (stream : Nat)
  | document (stream : Nat) (number : Nat)
  deriving DecidableEq, Repr

/-- The stream that is changed. -/
def Opening.stream : Opening → Nat
  | file stream .. => stream
  | same stream _ => stream
  | closed stream => stream
  | document stream _ => stream

/-- The path of the device that has nothing in it. -/
def nothingPath : ByteText := "/dev/null".toList

/-- The stream that a path stands for. -/
def streamOfPath? (path : ByteText) : Option Nat :=
  let numbered := "/dev/fd/".toList
  match String.ofList path with
  | "/dev/stdin" => some 0
  | "/dev/stdout" => some 1
  | "/dev/stderr" => some 2
  | _ =>
    let digits := path.drop numbered.length
    if path.take numbered.length = numbered && !digits.isEmpty && digits.all Char.isDigit then
      some (digitsFrom 10 0 digits).1
    else none

/-- What is said when a file cannot be opened. -/
def openFault (mode : OpenMode) (target : ByteText) (fault : Fault) : ByteText :=
  let isAbsent := fault = .notFound || fault = .notADirectory
  if mode = .read then
    "cannot open ".toList ++ target ++ ": ".toList ++
      if isAbsent then "No such file".toList else ofText fault.text
  else
    "cannot create ".toList ++ target ++ ": ".toList ++
      if isAbsent then "Directory nonexistent".toList else ofText fault.text

/-- The permission bits that a mask leaves to a new file. -/
def maskedMode (mask : Nat) : Nat :=
  0o666 - (0o666 &&& mask)

namespace Shell

/-- The file that a path names as it is opened for a stream, and the shell afterwards. -/
def openFile (shell : Shell) (mode : OpenMode) (target : ByteText) :
    Except IoError (Shell × Location) := do
  let path := pathOf target
  if mode = .read then return (shell, ← shell.files.locate shell.here path)
  else
    let location ← shell.files.locateTarget shell.here path
    match shell.files.get? location with
    | some (.file _ bits) =>
      match mode with
      | .write =>
        if shell.hasOption "noclobber" then throw (.system .alreadyExists)
        else return ({ shell with files := shell.files.set location (.file [] bits) }, location)
      | .overwrite =>
        return ({ shell with files := shell.files.set location (.file [] bits) }, location)
      | _ => return (shell, location)
    | some _ => throw (.system .isADirectory)
    | none =>
      let files := shell.files.set location (.file [] (maskedMode shell.mask))
      return ({ shell with files }, location)

/-- The shell with a stream that stands for what is at a path, or what is wrong. -/
def redirectToPath (shell : Shell) (stream : Nat) (mode : OpenMode) (target : ByteText) :
    Except ByteText Shell :=
  if target = nothingPath then .ok (shell.openStream stream .nothing)
  else
    match streamOfPath? target with
    | some other =>
      match shell.streams.lookup other with
      | some channel => .ok (shell.setStream stream (some channel))
      | none => .error (openFault mode target .notFound)
    | none =>
      match shell.openFile mode target with
      | .ok (shell, location) => .ok (shell.openStream stream (.file location mode 0))
      | .error (.system fault) => .error (openFault mode target fault)
      | .error _ => .error (openFault mode target .notFound)

/-- The shell with some streams as they were at another time. -/
def restoreStreams (shell : Shell) (streams : List Nat) (before : List (Nat × Nat)) : Shell :=
  streams.foldl (fun shell stream => shell.setStream stream (before.lookup stream)) shell

end Shell

/-- Fails because the text of a script is wrong as far as it is read. -/
def Action.failSyntax {α : Type} (violation : Violation) : Action α := do
  modify fun shell => { shell with line := shell.lineRead }
  Action.fail ("Syntax error: " ++ violation.message).toList

namespace Inner

/-- Expands the words of a redirection. -/
def opening (inner : Inner) : Redirection → Action Opening
  | .file stream mode target => return .file stream mode (← inner.text target)
  | .document stream number => return .document stream number
  | .duplicate stream source => do
    match ← inner.text source with
    | ['-'] => return .closed stream
    | [digit] =>
      if digit.isDigit then return .same stream (digit.toNat - '0'.toNat)
      else Action.failSyntax .badStream
    | _ => Action.failSyntax .badStream

/-- Carries out a redirection. Yields what is wrong if it fails. -/
def carryOut (inner : Inner) (opening : Opening) : Action (Option ByteText) := do
  let shell ← get
  match opening with
  | .file stream mode target =>
    match shell.redirectToPath stream mode target with
    | .ok shell =>
      set shell
      return none
    | .error fault => return some fault
  | .same stream other =>
    match shell.streams.lookup other with
    | some channel =>
      set (shell.setStream stream (some channel))
      return none
    | none =>
      if stream = other then return none
      else return some ((toString other).toList ++ ": Bad file descriptor".toList)
  | .closed stream =>
    set (shell.setStream stream none)
    return none
  | .document stream number =>
    let word := (shell.documents.lookup number).getD []
    let text := textOf (Mark.letters (← inner.expand { tilde := .nowhere } word))
    modify (·.openStream stream (.supplied text))
    return none

/-- Carries out redirections up to one that fails, and tells whether none did. If the streams
are to be restored, a stream is put aside before it becomes another one: then nothing is said
about a failure to change the stream for messages. -/
def carryOutAll (inner : Inner) (restores : Bool) : (aside : List Nat) → List Opening →
    Action Bool
  | _, [] => return true
  | aside, opening :: rest => do
    match ← inner.carryOut opening with
    | none => inner.carryOutAll restores (opening.stream :: aside) rest
    | some fault =>
      let isDuplicate :=
        match opening with
        | .same .. => true
        | _ => false
      if !(restores && isDuplicate && opening.stream = 2 && !aside.contains 2) then
        Action.complain fault
      Action.setStatus 2
      return false

/-- Runs an action with redirected streams; the action is told whether they could be
redirected. The streams stay as they are in the end if `keeps` says so. -/
def withStreams (inner : Inner) (openings : List Opening) (keeps : Bool)
    (action : (succeeded : Bool) → Action Unit) : Action Unit := do
  let before := (← get).streams
  let run : Action Unit := do action (← inner.carryOutAll true [] openings)
  if keeps then run
  else Action.afterwards run (modify (·.restoreStreams (openings.map Opening.stream) before))

end Inner

end BridgeSetup.Script
