import BridgeSetup.FileTree.Change
import BridgeSetup.Process.Outcome
import BridgeSetup.Script.Arithmetic
import BridgeSetup.Script.Pattern

/-!
# The state of a shell

What a running script can change: files, streams, variables, functions, options and the
directory it works in. A stream is a number for a channel, and several streams, also of
commands that are run apart, may stand for the same channel, so that they share its place in
a file. An `Action` changes the state and may end early with a `Departure`.
-/

namespace BridgeSetup.Script

/-! ## Parts of the state -/

/-- What is behind a stream. -/
inductive Channel where
  /-- A device that swallows what is written and has nothing to be read. -/
  | nothing
  /-- What has been written so far. -/
  | collected (text : ByteText)
  /-- What is still to be read. -/
  | supplied (text : ByteText)
  /-- A regular file and the place in it that comes next. -/
  | file (location : Location) (mode : OpenMode) (offset : Nat)
  deriving DecidableEq, Repr

/-- A variable. -/
structure Variable where
  name : ByteText
  value : Option ByteText := none
  isExported : Bool := false
  isReadOnly : Bool := false
  deriving DecidableEq, Repr

/-- The names of the options, with the letters that most of them have. -/
def optionTable : List (String × Option Char) :=
  [("errexit", some 'e'), ("noglob", some 'f'), ("ignoreeof", some 'I'),
   ("interactive", some 'i'), ("monitor", some 'm'), ("noexec", some 'n'),
   ("stdin", some 's'), ("xtrace", some 'x'), ("verbose", some 'v'), ("vi", some 'V'),
   ("emacs", some 'E'), ("noclobber", some 'C'), ("allexport", some 'a'),
   ("notify", some 'b'), ("nounset", some 'u'), ("privileged", some 'p'), ("nolog", none),
   ("debug", none)]

/-- The number by which a script knows its own process. -/
def ownProcess : ByteText := "1000".toList

/-- The number by which a script knows the last process that it did not wait for. -/
def lastProcess : ByteText := "1001".toList

/-- The state of a shell. -/
structure Shell where
  files : FileTree
  channels : List Channel
  /-- The channel of each open stream. -/
  streams : List (Nat × Nat)
  /-- What messages call the script. -/
  name : ByteText
  arguments : List ByteText
  bindings : List Variable := []
  functions : List (ByteText × Command) := []
  documents : List (Nat × Word) := []
  nextDocument : Nat := 0
  /-- The names of the options that are on. -/
  options : List String := []
  /-- What is run at a signal; nothing is run at a signal that is ignored. -/
  traps : List (Nat × ByteText) := []
  /-- What the script runs at a signal, if these commands are run apart from it. -/
  mainTraps : Option (List (Nat × ByteText)) := none
  /-- The signals that have come and at which nothing has been run yet. -/
  pending : List Nat := []
  /-- The exit status from before a signal, while something is run at it. -/
  keptStatus : Option Nat := none
  here : Location
  /-- The directory in which the script works as it was reached. -/
  path : ByteText
  /-- The permission bits that new files do not get. -/
  mask : Nat := 0o022
  /-- The line of the command that is being run. -/
  line : Nat := 0
  /-- The line up to which the text is read that is being run. -/
  lineRead : Nat := 0
  /-- The exit status of the last command. -/
  status : Nat := 0
  /-- The exit status of the last commands whose output was asked for. -/
  outputStatus : Nat := 0
  /-- The exit status of the last commands that were not waited for, if there are any. -/
  backgroundStatus : Option Nat := none
  /-- The command that messages are about. -/
  speaker : Option ByteText := none
  /-- The number of loops that are being run. -/
  loops : Nat := 0
  /-- The variables that the functions being run have replaced, the innermost first. -/
  replaced : List (List (ByteText × Option Variable)) := []

/-- Why a command is left early. -/
inductive Departure where
  /-- A number of loops are left, too. -/
  | leaves (loops : Nat)
  /-- The next round of a loop is begun, some loops further out. -/
  | resumes (loops : Nat)
  /-- A function or a file is left, too. -/
  | returns
  /-- A failure that ends the script unless a command takes it upon itself. -/
  | fails
  /-- The script is ended. -/
  | ends
  /-- A signal ends the script. -/
  | dies (signal : Nat)
  deriving DecidableEq, Repr

/-- A computation that changes a shell. -/
abbrev Action := ExceptT Departure (StateM Shell)

/-! ## Variables -/

namespace Shell

/-- The variable of a name. -/
def stored? (shell : Shell) (name : ByteText) : Option Variable :=
  shell.bindings.find? (·.name = name)

/-- The value of a variable. -/
def value? (shell : Shell) (name : String) : Option ByteText :=
  (shell.stored? name.toList).bind Variable.value

/-- The shell with a variable put in the place of the one with the same name. -/
def withVariable (shell : Shell) (entry : Variable) : Shell :=
  { shell with bindings := entry :: shell.bindings.filter (·.name ≠ entry.name) }

/-- The shell without a variable. -/
def withoutVariable (shell : Shell) (name : ByteText) : Shell :=
  { shell with bindings := shell.bindings.filter (·.name ≠ name) }

/-- Whether an option is on. -/
def hasOption (shell : Shell) (option : String) : Bool :=
  shell.options.contains option

/-- The shell with an option on or off. -/
def withOption (shell : Shell) (option : String) (isOn : Bool) : Shell :=
  let others := shell.options.filter (· ≠ option)
  { shell with options := if isOn then option :: others else others }

/-- The letters of the options that are on. -/
def optionLetters (shell : Shell) : ByteText :=
  optionTable.reverse.filterMap fun (option, letter) =>
    if shell.hasOption option then letter else none

/-- The variables that a program gets. -/
def exported (shell : Shell) : List (ByteText × ByteText) :=
  shell.bindings.filterMap fun entry =>
    if entry.isExported then entry.value.map (entry.name, ·) else none

/-- The characters at which the results of expansions are cut. -/
def separators (shell : Shell) : ByteText :=
  (shell.value? "IFS").getD [' ', '\t', '\n']

/-- What stands between arguments that become one text. -/
def joint (shell : Shell) : ByteText :=
  match shell.value? "IFS" with
  | none => [' ']
  | some separators => separators.take 1

/-- The shell as it is for commands that are run apart: it gets no signals, but remembers
which ones are ignored. -/
def withoutTraps (shell : Shell) : Shell :=
  { shell with
    traps := shell.traps.filter fun (_, action) => action.isEmpty
    mainTraps := some (shell.mainTraps.getD shell.traps)
    pending := [] }

/-! ## Streams -/

/-- The channel of a stream and its number. -/
def channel? (shell : Shell) (stream : Nat) : Option (Nat × Channel) := do
  let number ← shell.streams.lookup stream
  return (number, ← shell.channels[number]?)

/-- The shell with another channel of the given number. -/
def setChannel (shell : Shell) (number : Nat) (channel : Channel) : Shell :=
  { shell with channels := shell.channels.set number channel }

/-- The shell with a stream that stands for a channel, or for none. -/
def setStream (shell : Shell) (stream : Nat) (channel : Option Nat) : Shell :=
  let others := shell.streams.filter (·.1 ≠ stream)
  { shell with
    streams := match channel with
      | some number => (stream, number) :: others
      | none => others }

/-- The shell with a stream that stands for a new channel. -/
def openStream (shell : Shell) (stream : Nat) (channel : Channel) : Shell :=
  { shell with channels := shell.channels ++ [channel] }.setStream stream shell.channels.length

/-- The shell after a text was written to a stream, if that takes any. -/
def write? (shell : Shell) (stream : Nat) (text : ByteText) : Option Shell :=
  match shell.channel? stream with
  | none => none
  | some (number, channel) =>
    match channel with
    | .nothing => some shell
    | .collected before => some (shell.setChannel number (.collected (before ++ text)))
    | .supplied _ => none
    | .file location mode offset =>
      match mode with
      | .read => none
      | .append => some { shell with files := shell.files.appendAt location (toBytes text) }
      | _ =>
        let files := shell.files.writeAt location offset (toBytes text)
        some ({ shell with files }.setChannel number
          (.file location mode (offset + text.length)))

/-- All that can still be read from a channel. -/
def remaining (shell : Shell) : Channel → ByteText
  | .supplied text => text
  | .file location mode offset =>
    match mode with
    | .write | .overwrite | .append => []
    | _ => ofBytes (((shell.files.contentsAt? location).getD []).drop offset)
  | _ => []

/-- The shell after a number of bytes were read from a channel. -/
def consume (shell : Shell) (number count : Nat) : Channel → Shell
  | .supplied text => shell.setChannel number (.supplied (text.drop count))
  | .file location mode offset => shell.setChannel number (.file location mode (offset + count))
  | _ => shell

/-- What has been collected in a channel. -/
def collectedIn (shell : Shell) (number : Nat) : ByteText :=
  match shell.channels[number]? with
  | some (.collected text) => text
  | _ => []

end Shell

/-! ## Actions -/

namespace Action

/-- Leaves a command early. -/
def depart {α : Type} (departure : Departure) : Action α :=
  throw departure

/-- Sets the exit status. -/
def setStatus (status : Nat) : Action Unit :=
  modify ({ · with status })

/-- Writes a text to a stream, as far as that takes any. -/
def writeAnyway (stream : Nat) (text : ByteText) : Action Unit :=
  modify fun shell => (shell.write? stream text).getD shell

/-- Says something about the command that is being run. -/
def complain (text : ByteText) : Action Unit := do
  let shell ← get
  let speaker :=
    match shell.speaker with
    | some speaker => speaker ++ ": ".toList
    | none => []
  writeAnyway 2
    (shell.name ++ (": " ++ toString shell.line ++ ": ").toList ++ speaker ++ text ++ ['\n'])

/-- Fails with the given status after saying why. -/
def failWith {α : Type} (status : Nat) (text : ByteText) : Action α := do
  complain text
  setStatus status
  depart .fails

/-- Fails after saying why. -/
def fail {α : Type} (text : ByteText) : Action α :=
  failWith 2 text

/-- Runs an action and yields how it was left. -/
def outcome (action : Action Unit) : Action (Option Departure) := fun shell =>
  match action.run.run shell with
  | (.ok (), shell) => (.ok none, shell)
  | (.error departure, shell) => (.ok (some departure), shell)

/-- Goes on as an action did that was left in the given way. -/
def resume : Option Departure → Action Unit
  | none => return
  | some departure => depart departure

/-- Runs an action and then another one, however the first is left. -/
def afterwards (action last : Action Unit) : Action Unit := do
  let departure ← outcome action
  last
  resume departure

/-- Gives a variable a value. -/
def assign (name value : ByteText) (exports : Bool := false) : Action Unit := do
  let shell ← get
  let before := (shell.stored? name).getD { name }
  if before.isReadOnly then fail (name ++ ": is read only".toList)
  else if !isName name then fail (name ++ ": bad variable name".toList)
  else
    let isExported := before.isExported || exports || shell.hasOption "allexport"
    set (shell.withVariable { before with value, isExported })

/-- Runs an action on another shell, from which files and channels are taken over
afterwards. Yields how the action was left, and the other shell. -/
def elsewhere (prepare : Shell → Shell) (action : Action Unit) :
    Action (Option Departure × Shell) := fun shell =>
  let run (inner : Shell) (departure : Option Departure) :=
    (.ok (departure, inner), { shell with files := inner.files, channels := inner.channels })
  match action.run.run (prepare shell) with
  | (.error departure, inner) => run inner (some departure)
  | (.ok (), inner) => run inner none

/-- Runs an action apart: of what it changes, only what it does to files and channels stays.
It yields the exit status of the action. A signal that comes meanwhile is for the script. -/
def apart (prepare : Shell → Shell) (action : Action Unit) : Action Nat := do
  let (departure, inner) ← elsewhere (prepare ·.withoutTraps) action
  match departure with
  | some (.dies signal) => depart (.dies signal)
  | _ =>
    modify fun shell => { shell with pending := shell.pending ++ inner.pending }
    return inner.status

end Action

end BridgeSetup.Script
