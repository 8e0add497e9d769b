import BridgeSetup.Script.Builtin
import BridgeSetup.Script.Launch
import BridgeSetup.Script.Parser

/-!
# Calls

Which command the fields of a simple command call. A name stands for a special command of
the shell, a function, another command of the shell, or a program. The word `command` before
a name passes over functions, and takes away from special commands what is special about
them.
-/

namespace BridgeSetup.Script

/-- A command that is called by its name. -/
structure Call where
  name : ByteText
  operands : List ByteText
  /-- Whether the word `command` stands before the name. -/
  isPlain : Bool := false
  deriving DecidableEq, Repr

/-- What is called. -/
inductive Target where
  | special
  | function (body : Command)
  | own
  | program

namespace Call

/-- The call that the operands of the word `command` make, if they make one. -/
def behind? : List ByteText → Option Call
  | ['-', '-'] :: name :: operands => some { name, operands, isPlain := true }
  | [] | ['-', '-'] :: [] | ('-' :: _ :: _) :: _ => none
  | name :: operands => some { name, operands, isPlain := true }

/-- The call without the words `command` before its name; `fuel` bounds their number. -/
def withoutCommand (isFunction : ByteText → Bool) : (fuel : Nat) → Call → Call
  | 0, call => call
  | fuel + 1, call =>
    if call.name = "command".toList && (call.isPlain || !isFunction call.name) then
      match behind? call.operands with
      | some inner => withoutCommand isFunction fuel inner
      | none => call
    else call

/-- The call that fields make. -/
def ofFields? (shell : Shell) : List ByteText → Option Call
  | [] => none
  | name :: operands =>
    let isFunction (name : ByteText) : Bool := (shell.functions.lookup name).isSome
    some (withoutCommand isFunction (operands.length + 1) { name, operands })

/-- What is called. -/
def target (shell : Shell) (call : Call) : Target :=
  let name := String.ofList call.name
  if !call.isPlain && specialCommands.contains name then .special
  else
    match if call.isPlain then none else shell.functions.lookup call.name with
    | some body => .function body
    | none => if Builtin.isCommand name then .own else .program

/-- Whether operands that look like assignments are expanded like those. -/
def assigns (call : Call) : Bool :=
  ["export", "readonly", "local"].contains (String.ofList call.name)

/-- The paths at which the program may be that is called. -/
def candidates (shell : Shell) (call : Call) : List ByteText :=
  Script.candidates ((shell.value? "PATH").getD []) call.name

/-- The paths at which the program that is called can be looked for in vain or found: those
from the first one on that is a file which may be executed. -/
def found (shell : Shell) (call : Call) : Except Fault (List ByteText) :=
  if call.name.contains '/' then .ok [call.name]
  else search shell.files shell.here .notFound (call.candidates shell)

end Call

/-- Says that a program cannot be executed. -/
def complainProgram (name : ByteText) (fault : Fault) : Action Unit :=
  Action.complain (name ++ ": ".toList ++ programFault fault)

/-! ## Descriptions -/

namespace Builtin

/-- How what a name stands for can be called, if it stands for anything. -/
def describe (shell : Shell) (call : Call) : Option ByteText :=
  let text := String.ofList call.name
  if reservedWords.contains text || (shell.functions.lookup call.name).isSome ||
      specialCommands.contains text || isCommand text then some call.name
  else if call.name.contains '/' then
    if shell.files.pathExists shell.here (pathOf call.name) then some call.name else none
  else
    match call.found shell with
    | .ok (path :: _) => some path
    | _ => none

/-- Tells how what a name stands for can be called. -/
def command (operands : List ByteText) : Action Unit := do
  let (_, names) ← takeOptions ['v'] operands
  match names with
  | [] => Action.setStatus 0
  | name :: _ =>
    match describe (← get) { name, operands := [] } with
    | some path => reply (path ++ ['\n'])
    | none => Action.setStatus 127

end Builtin

end BridgeSetup.Script
