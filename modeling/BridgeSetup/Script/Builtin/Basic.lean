import BridgeSetup.Script.Builtin.Operands
import BridgeSetup.Script.Condition
import BridgeSetup.Script.Format

/-!
# Control and output

The commands that leave something early, write their operands, or test a condition.
-/

namespace BridgeSetup.Script.Builtin

/-! ## Control -/

/-- Ends the script. At a signal the exit status is the one from before. -/
def exit : List ByteText → Action Unit
  | [] => do
    modify fun shell => { shell with status := shell.keptStatus.getD shell.status }
    Action.depart .ends
  | operand :: _ => do
    Action.setStatus ((← numberOf operand) % 256)
    Action.depart .ends

/-- Leaves a function, a file or the script. -/
def returnFrom : List ByteText → Action Unit
  | [] => Action.depart .returns
  | operand :: _ => do
    Action.setStatus ((← numberOf operand) % 256)
    Action.depart .returns

/-- Leaves loops or begins their next round. -/
def leave (departure : Nat → Departure) (operands : List ByteText) : Action Unit := do
  let count ←
    match operands with
    | [] => pure 1
    | operand :: _ =>
      let count ← numberOf operand
      if count = 0 then Action.fail ("Illegal number: ".toList ++ operand) else pure count
  let loops := (← get).loops
  Action.setStatus 0
  if loops ≠ 0 then Action.depart (departure (min count loops))

/-- Drops arguments. -/
def shift (operands : List ByteText) : Action Unit := do
  let count ←
    match operands with
    | [] => pure 1
    | operand :: _ => numberOf operand
  let shell ← get
  if shell.arguments.length < count then Action.fail "can't shift that many".toList
  else set { shell with arguments := shell.arguments.drop count, status := 0 }

/-! ## Output -/

/-- Writes the operands. -/
def echo (operands : List ByteText) : Action Unit :=
  match operands with
  | ['-', 'n'] :: rest => reply (echoed false rest)
  | operands => reply (echoed true operands)

/-- Writes operands as a format says. -/
def printf (operands : List ByteText) : Action Unit := do
  match ← takeOptions [] operands with
  | (_, []) => Action.fail "usage: printf format [arg ...]".toList
  | (_, format :: operands) =>
    let (text, complaints, status) := formatted format operands
    complaints.forM Action.complain
    reply text status

/-- Tests a condition. -/
def test (operands : List ByteText) : Action Unit := do
  let shell ← get
  match World.condition ⟨shell.files, shell.here⟩ operands with
  | .ok holds => Action.setStatus (if holds then 0 else 1)
  | .error fault => Action.fail fault.message

/-- Tests a condition that a bracket closes. -/
def bracket (operands : List ByteText) : Action Unit :=
  if (operands.getLast?.bind List.head?) = some ']' then test operands.dropLast
  else Action.fail "missing ]".toList

end BridgeSetup.Script.Builtin
