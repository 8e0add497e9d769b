import BridgeSetup.Script.Arithmetic
import BridgeSetup.Script.Shell

/-!
# Operands

What the commands of the shell have in common: how they take options and numbers from their
operands, and how they answer.
-/

namespace BridgeSetup.Script.Builtin

/-- Writes the output of a command and sets its exit status. -/
def reply (text : ByteText) (status : Nat := 0) : Action Unit := do
  Action.setStatus status
  if !text.isEmpty then
    let shell ← get
    match shell.write? 1 text with
    | some shell => set shell
    | none =>
      Action.complain ((shell.speaker.getD []) ++ ": I/O error".toList)
      Action.setStatus 1

/-- The number that an operand of a command is. -/
def numberOf (text : ByteText) : Action Nat :=
  match integer? text with
  | some number =>
    if 0 ≤ number && number ≤ 0x7FFFFFFF then return number.natAbs
    else Action.fail ("Illegal number: ".toList ++ text)
  | none => Action.fail ("Illegal number: ".toList ++ text)

/-- Fails because of a letter that is no option. -/
def failOption {α : Type} (letter : Char) : Action α :=
  Action.fail ("Illegal option -".toList ++ [letter])

/-- The letters of the options at the start of some operands, and the operands after
them. -/
def takeOptions (allowed : List Char) : List ByteText → Action (List Char × List ByteText)
  | ['-', '-'] :: rest => return ([], rest)
  | ('-' :: letter :: letters) :: rest => do
    match (letter :: letters).find? (!allowed.contains ·) with
    | some other => failOption other
    | none =>
      let (others, rest) ← takeOptions allowed rest
      return (letter :: letters ++ others, rest)
  | operands => return ([], operands)

/-- A text between single quotes, in which a single quote stands between double quotes. -/
def singleQuoted (text : ByteText) : ByteText :=
  match text.splitOnP (· = '\'') with
  | [] => ['\'', '\'']
  | pieces =>
    let shown := pieces.map fun piece => if piece.isEmpty then [] else '\'' :: piece ++ ['\'']
    if text.isEmpty then ['\'', '\''] else List.intercalate ['"', '\'', '"'] shown

end BridgeSetup.Script.Builtin
