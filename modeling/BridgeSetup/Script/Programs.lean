import BridgeSetup.Process.Start
import BridgeSetup.Script.Evaluation

/-!
# Scripts as programs

What the executable files of a tree do when they are started: in the end a shell is started,
which collects what is written to its two output streams and has nothing to read.

`programs` is the `Programs` that the outer layer works with: the child processes of
`Interpreter.probe` and `Installer.scripted`, where the interpreter is a script. These two and
all that is built on them are stated for any `Programs`.
-/

namespace BridgeSetup.Script

/-- How a shell ended that was left in some way, and what it wrote. -/
def finished (departure : Option Departure) (shell : Shell) : Finished :=
  let exit :=
    match departure with
    | some (.dies _) => .signal
    | _ => .code shell.status
  ⟨exit, toBytes (shell.collectedIn 1), toBytes (shell.collectedIn 2)⟩

/-- Runs a shell with the given arguments and variables. -/
def runShell (files : FileTree) (here : Location) (bindings : List (ByteText × ByteText))
    (arguments : List ByteText) : Finished × FileTree :=
  let channels := [.nothing, .collected [], .collected []]
  let shell := Shell.start files channels [(0, 0), (1, 1), (2, 2)] here bindings
  match ((meaning depthLimit).session arguments).run.run shell with
  | (.ok (), ended) => (finished none ended, ended.files)
  | (.error departure, ended) => (finished (some departure) ended, ended.files)

/-- What the executable files of a tree do. -/
def programs : Programs := fun invocation files =>
  let here := invocation.workingDirectory
  let arguments := ofText invocation.path.text :: invocation.arguments.map ofText
  match launch files here invocation.file arguments with
  | .error fault => (.error fault, files)
  | .ok arguments =>
    let bindings := invocation.bindings.map fun (name, value) => (ofText name, ofText value)
    let (finished, left) := runShell files here bindings arguments
    (.ok finished, left)

end BridgeSetup.Script
