import BridgeSetup.Script.Builtin.Operands
import BridgeSetup.Script.Expansion

/-!
# Input

The command that reads a line into variables.
-/

namespace BridgeSetup.Script.Builtin

/-- The line at the start of a text, the number of bytes it takes up, and whether it is
complete. A backslash joins lines and protects characters unless the line is raw. -/
def lineFrom (isRaw : Bool) : ByteText → List Mark × Nat × Bool
  | [] => ([], 0, false)
  | '\n' :: _ => ([], 1, true)
  | ['\\'] => if isRaw then ([.letter ⟨'\\', false⟩ true], 1, false) else ([], 1, false)
  | '\\' :: c :: rest =>
    if isRaw then
      let (marks, count, isComplete) := lineFrom isRaw (c :: rest)
      (.letter ⟨'\\', false⟩ true :: marks, count + 1, isComplete)
    else
      let (marks, count, isComplete) := lineFrom isRaw rest
      (if c = '\n' then marks else .letter ⟨c, true⟩ false :: marks, count + 2, isComplete)
  | c :: rest =>
    let (marks, count, isComplete) := lineFrom isRaw rest
    (if c = '\x00' then marks else .letter ⟨c, false⟩ true :: marks, count + 1, isComplete)

/-- The first fields of a line, which are at most as many as given, and the rest of it. -/
def firstFields (separators : ByteText) (count : Nat) : Cutting → List Mark →
    List (List Letter) × List Mark
  | cutting, [] => (cutting.fields, [])
  | cutting, mark :: rest =>
    let next := cutting.step separators mark
    if cutting.complete.length = count &&
        (next.current.isSome || count < next.complete.length) then
      (cutting.fields, mark :: rest)
    else firstFields separators count next rest

/-- The rest of a line as the value of one variable: a single field without the separator
after it, or all fields without the blanks after them. -/
def lastField (separators : ByteText) (marks : List Mark) : ByteText :=
  match fieldsOf separators marks with
  | [] => []
  | [field] => textOf field
  | _ =>
    let isBlank : Mark → Bool
      | .letter letter isCut =>
        isCut && separators.contains letter.char && [' ', '\t', '\n'].contains letter.char
      | _ => false
    textOf (Mark.letters (marks.reverse.dropWhile isBlank).reverse)

/-- The values that a line gives to a number of variables. -/
def valuesOf (separators : ByteText) (count : Nat) (marks : List Mark) : List ByteText :=
  let (fields, rest) := firstFields separators (count - 1) {} marks
  let values := fields.map textOf ++ [lastField separators rest]
  (values ++ List.replicate count []).take count

/-- Splits the options of a command that reads from its operands. -/
def readOptions : List ByteText → Action (Bool × List ByteText)
  | ['-', '-'] :: rest => return (false, rest)
  | ['-', 'p'] :: _ :: rest => readOptions rest
  | ('-' :: letter :: letters) :: rest => do
    match (letter :: letters).find? (· ≠ 'r') with
    | some other =>
      if other = 'p' then readOptions rest else failOption other
    | none =>
      let (_, rest) ← readOptions rest
      return (true, rest)
  | operands => return (false, operands)

/-- Reads a line into variables. -/
def read (operands : List ByteText) : Action Unit := do
  let (isRaw, names) ← readOptions operands
  if names.isEmpty then Action.fail "arg count".toList
  else
    let shell ← get
    let (marks, isComplete) ←
      match shell.channel? 0 with
      | none => pure ([], false)
      | some (number, channel) =>
        let (marks, count, isComplete) := lineFrom isRaw (shell.remaining channel)
        set (shell.consume number count channel)
        pure (marks, isComplete)
    let values := valuesOf shell.separators names.length marks
    (names.zip values).forM fun (name, value) => Action.assign name value
    Action.setStatus (if isComplete then 0 else 1)

end BridgeSetup.Script.Builtin
