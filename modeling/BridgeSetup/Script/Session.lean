import BridgeSetup.Script.Builtin.Directories
import BridgeSetup.Script.Builtin.Variables
import BridgeSetup.Script.Launch
import BridgeSetup.Script.Lines

/-!
# Sessions

A shell from its start to its end. It is started with variables, open streams and arguments;
the arguments may switch options, and name what it runs: commands that are given right away,
a file, or what can be read from the first stream.
-/

namespace BridgeSetup.Script

/-! ## The start of a shell -/

/-- The variables that every shell has. -/
def ownVariables : List Variable :=
  [{ name := "IFS".toList, value := some [' ', '\t', '\n'] },
   { name := "OPTIND".toList, value := some ['1'] },
   { name := "PS1".toList, value := some "# ".toList },
   { name := "PS2".toList, value := some "> ".toList },
   { name := "PS4".toList, value := some "+ ".toList },
   { name := "PPID".toList, value := some "999".toList },
   { name := "PATH".toList, value := some defaultPath }]

/-- The names of the variables that every shell sets anew. -/
def resetNames : List String :=
  ["IFS", "OPTIND", "PPID"]

/-- The shell with a variable that it is started with. -/
def Shell.withGiven (shell : Shell) (name value : ByteText) : Shell :=
  if !isName name then shell
  else
    let isReset := resetNames.contains (String.ofList name)
    let value := if isReset then (shell.stored? name).bind Variable.value else some value
    shell.withVariable { name, value, isExported := !isReset }

/-- The shell that works in a directory. The path by which the directory was reached is kept
if it still leads there. -/
def Shell.workingIn (shell : Shell) (here : Location) : Shell :=
  let physical := Builtin.pathOfLocation here
  let path :=
    match shell.value? "PWD" with
    | some ('/' :: rest) =>
      match shell.files.locate here (pathOf ('/' :: rest)) with
      | .ok location => if location = here then '/' :: rest else physical
      | .error _ => physical
    | _ => physical
  { shell with here, path }.withVariable
    { name := "PWD".toList, value := some path, isExported := true }

/-- A shell at its start. -/
def Shell.start (files : FileTree) (channels : List Channel) (streams : List (Nat × Nat))
    (here : Location) (bindings : List (ByteText × ByteText)) : Shell :=
  let shell : Shell :=
    { files, channels, streams, here, name := [], arguments := [], path := []
      bindings := ownVariables }
  (bindings.foldl (fun shell (name, value) => shell.withGiven name value) shell).workingIn here

/-! ## The arguments of a shell -/

namespace Inner

/-- Switches the options with which a shell is started. Yields the arguments after them, and
whether the first of these holds commands; `fuel` bounds the number of arguments. -/
def startOptions : (fuel : Nat) → (isCommand : Bool) → List ByteText →
    Action (Bool × List ByteText)
  | 0, isCommand, arguments => return (isCommand, arguments)
  | fuel + 1, isCommand, arguments => do
    let own (letters : ByteText) : ByteText := letters.filter fun c => c ≠ 'c' && c ≠ 'l'
    match arguments with
    | ['-'] :: rest | ['-', '-'] :: rest => return (isCommand, rest)
    | ('-' :: letters) :: rest =>
      let rest ← Builtin.switchOptions true (own letters) rest
      startOptions fuel (isCommand || letters.contains 'c') rest
    | ('+' :: letters) :: rest =>
      let rest ← Builtin.switchOptions false (own letters) rest
      startOptions fuel (isCommand || letters.contains 'c') rest
    | arguments => return (isCommand, arguments)

/-- Runs a text as a script. No character of a script is zero. -/
def runScript (inner : Inner) (text : ByteText) : Action Unit :=
  inner.runText false (text.filter (· ≠ '\x00'))

/-- Runs all that can be read from the first stream. -/
def runInput (inner : Inner) : Action Unit := do
  let shell ← get
  match shell.channel? 0 with
  | none => return
  | some (number, channel) =>
    let text := shell.remaining channel
    set (shell.consume number text.length channel)
    inner.runScript text

/-- The text of a file that is to be run. A directory has no text. -/
def fileText (path : ByteText) : Action ByteText := do
  let shell ← get
  match shell.files.locate shell.here (pathOf path) with
  | .ok location => return ofBytes ((shell.files.contentsAt? location).getD [])
  | .error (.system fault) => Action.fail (openFault .read path fault)
  | .error _ => Action.fail (openFault .read path .notFound)

/-- Runs a shell with the given arguments, its own name first. -/
def session (inner : Inner) (arguments : List ByteText) : Action Unit :=
  inner.finish do
    modify ({ · with name := arguments.headD shellPath })
    let operands := arguments.tail
    let (isCommand, operands) ← startOptions (operands.length + 1) false operands
    match isCommand, operands with
    | true, [] => Action.fail "-c requires an argument".toList
    | true, text :: rest =>
      modify fun shell =>
        { shell with name := rest.headD shell.name, arguments := rest.tail }
      inner.runScript text
      if (← get).hasOption "stdin" then inner.runInput
    | false, [] =>
      modify (·.withOption "stdin" true)
      inner.runInput
    | false, file :: rest =>
      if (← get).hasOption "stdin" then
        modify ({ · with arguments := operands })
        inner.runInput
      else
        let text ← fileText file
        modify ({ · with name := file, arguments := rest })
        inner.runScript text

end Inner

end BridgeSetup.Script
