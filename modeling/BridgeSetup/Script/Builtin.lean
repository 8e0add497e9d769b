import BridgeSetup.Script.Builtin.Basic
import BridgeSetup.Script.Builtin.Directories
import BridgeSetup.Script.Builtin.Input
import BridgeSetup.Script.Builtin.Signals
import BridgeSetup.Script.Builtin.Variables

/-!
# Commands of the shell itself

Each of them is an action on the shell that is given its operands; `own?` finds it by its
name.
-/

namespace BridgeSetup.Script.Builtin

/-- Does nothing, with the given exit status. -/
def nothing (status : Nat) (_ : List ByteText) : Action Unit :=
  Action.setStatus status

/-- The command of the shell with the given name, if it has nothing to do with other
commands. -/
def own? (name : String) : Option (List ByteText → Action Unit) :=
  match name with
  | ":" | "true" => some (nothing 0)
  | "false" => some (nothing 1)
  | "exit" => some exit
  | "return" => some returnFrom
  | "break" => some (leave .leaves)
  | "continue" => some (leave .resumes)
  | "shift" => some shift
  | "echo" => some echo
  | "printf" => some printf
  | "test" => some test
  | "[" => some bracket
  | "export" =>
    some (mark "export" Variable.isExported ({ · with isExported := true }))
  | "readonly" =>
    some (mark "readonly" Variable.isReadOnly ({ · with isReadOnly := true }))
  | "unset" => some unset
  | "local" => some makeLocal
  | "set" => some setAll
  | "cd" | "chdir" => some cd
  | "pwd" => some pwd
  | "umask" => some umask
  | "read" => some read
  | "trap" => some trap
  | "kill" => some kill
  | "wait" => some wait
  | _ => none

/-- The commands of the shell that run others or tell about them. -/
def others : List String :=
  [".", "command", "eval", "exec"]

/-- Whether a command of the shell has a name. -/
def isCommand (name : String) : Bool :=
  (own? name).isSome || others.contains name

end BridgeSetup.Script.Builtin
