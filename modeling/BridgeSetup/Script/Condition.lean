import BridgeSetup.Script.Arithmetic
import BridgeSetup.Script.Pattern

/-!
# Conditions

What the commands that test something make of their operands. The grammar of conditions is
ambiguous, since an operand may look like an operator; of one to four operands the number
decides first.
-/

namespace BridgeSetup.Script

/-- What an operand may be besides a text. -/
inductive TestOperator where
  /-- An operator before one operand. -/
  | unary
  /-- An operator between two operands. -/
  | binary
  | negation
  | conjunction
  | disjunction
  | opening
  | closing
  deriving DecidableEq, Repr

/-- The operators before one operand. -/
def unaryTests : List String :=
  ["-r", "-w", "-x", "-e", "-f", "-d", "-c", "-b", "-p", "-u", "-g", "-k", "-s", "-t", "-z",
   "-n", "-h", "-O", "-G", "-L", "-S"]

/-- The operators between two operands. -/
def binaryTests : List String :=
  ["=", "!=", "<", ">", "-eq", "-ne", "-ge", "-gt", "-le", "-lt", "-nt", "-ot", "-ef"]

/-- The operator that a text is. -/
def testOperator? (text : ByteText) : Option TestOperator :=
  let text := String.ofList text
  if unaryTests.contains text then some .unary
  else if binaryTests.contains text then some .binary
  else
    match text with
    | "!" => some .negation
    | "-a" => some .conjunction
    | "-o" => some .disjunction
    | "(" => some .opening
    | ")" => some .closing
    | _ => none

/-- Whether a text is an operator between two operands. -/
def isBinaryTest (text : ByteText) : Bool :=
  testOperator? text = some .binary

/-- Whether an operator before one operand is itself an operand, to judge from what follows
it. -/
def isOperandBefore : List ByteText → Bool
  | [] => true
  | [_] => false
  | next :: _ :: _ => isBinaryTest next

/-- The operator at the start of some operands, as far as it is not an operand. -/
def leadingOperator? : List ByteText → Option TestOperator
  | [] => none
  | text :: rest =>
    match testOperator? text with
    | some .unary => if isOperandBefore rest then none else some .unary
    | some .opening => if rest.isEmpty then none else some .opening
    | operator => operator

/-- What can be wrong with a condition. -/
inductive ConditionFault where
  | unexpectedOperator (text : ByteText)
  | operandExpected (operator : ByteText)
  | openParenthesis
  | badNumber (text : ByteText)
  deriving DecidableEq, Repr

/-- What is said about a condition. -/
def ConditionFault.message : ConditionFault → ByteText
  | unexpectedOperator [] => "unexpected operator".toList
  | unexpectedOperator text => text ++ ": unexpected operator".toList
  | operandExpected operator => operator ++ ": argument expected".toList
  | openParenthesis => "closing paren expected".toList
  | badNumber text => "Illegal number: ".toList ++ text

/-- What conditions can ask about. -/
structure World where
  files : FileTree
  here : Location

namespace World

/-- The node that a path names if its last link is not followed. -/
def linkAt? (world : World) (path : Path) : Bool :=
  match path.parent, path.fileName with
  | some outer, some name =>
    let outer := if outer.text = "" then ⟨"."⟩ else outer
    match world.files.locate world.here outer with
    | .ok location =>
      match world.files.get? (name :: location) with
      | some (.link _) => true
      | _ => false
    | .error _ => false
  | _, _ => false

/-- Whether an operator before one operand holds. -/
def unary (world : World) (operator : String) (operand : ByteText) :
    Except ConditionFault Bool :=
  let path := pathOf operand
  let found := world.files.find? world.here path
  match operator with
  | "-n" => .ok !operand.isEmpty
  | "-z" => .ok operand.isEmpty
  | "-e" | "-r" | "-w" | "-O" | "-G" => .ok found.isSome
  | "-f" => .ok (world.files.isFile world.here path)
  | "-d" => .ok (world.files.isDirectory world.here path)
  | "-x" =>
    .ok (world.files.isDirectory world.here path || world.files.isExecutable world.here path)
  | "-s" =>
    match found with
    | some (.file contents _) => .ok !contents.isEmpty
    | some _ => .ok true
    | none => .ok false
  | "-h" | "-L" => .ok (world.linkAt? path)
  | "-t" =>
    match integer? operand with
    | some _ => .ok false
    | none => .error (.badNumber operand)
  | _ => .ok false

/-- Whether two numbers stand in a relation. -/
def compare (related : Int → Int → Bool) (first second : ByteText) :
    Except ConditionFault Bool :=
  match integer? first, integer? second with
  | none, _ => .error (.badNumber first)
  | _, none => .error (.badNumber second)
  | some first, some second => .ok (related first second)

/-- Whether an operator between two operands holds. Times of files are not known: a file is
newer than one that does not exist. -/
def binary (world : World) (operator : String) (first second : ByteText) :
    Except ConditionFault Bool :=
  let pathExists (text : ByteText) : Bool := world.files.pathExists world.here (pathOf text)
  match operator with
  | "=" => .ok (first = second)
  | "!=" => .ok (first ≠ second)
  | "<" => .ok (first < second)
  | ">" => .ok (second < first)
  | "-eq" => compare (· = ·) first second
  | "-ne" => compare (· ≠ ·) first second
  | "-ge" => compare (· ≥ ·) first second
  | "-gt" => compare (· > ·) first second
  | "-le" => compare (· ≤ ·) first second
  | "-lt" => compare (· < ·) first second
  | "-nt" => .ok (pathExists first && !pathExists second)
  | "-ot" => .ok (!pathExists first && pathExists second)
  | "-ef" =>
    match world.files.locate world.here (pathOf first),
        world.files.locate world.here (pathOf second) with
    | .ok first, .ok second => .ok (first = second)
    | _, _ => .ok false
  | _ => .ok false

/-- Whether an operand, which is the first of some, or the operator after it with the next
operand holds, and the operands from the last one on that was used. -/
def operandFrom (world : World) (text : ByteText) (rest : List ByteText) :
    Except ConditionFault (Bool × List ByteText) :=
  match rest with
  | operator :: others =>
    if isBinaryTest operator then
      match others with
      | second :: _ => do return (← world.binary (String.ofList operator) text second, others)
      | [] => .error (.operandExpected operator)
    else .ok (!text.isEmpty, text :: rest)
  | [] => .ok (!text.isEmpty, [text])

mutual

/-- Whether the first of some alternatives hold. Like the other readers it yields the
operands from the last one on that was used, and `fuel` bounds its depth. -/
def disjunction (world : World) : (fuel : Nat) → (soFar : Bool) → List ByteText →
    Except ConditionFault (Bool × List ByteText)
  | 0, soFar, operands => .ok (soFar, operands)
  | fuel + 1, soFar, operands => do
    let (holds, used) ← world.conjunction fuel true operands
    if leadingOperator? used.tail = some .disjunction then
      world.disjunction fuel (soFar || holds) used.tail.tail
    else return (soFar || holds, used)

/-- Whether the first of some conditions hold together. -/
def conjunction (world : World) : (fuel : Nat) → (soFar : Bool) → List ByteText →
    Except ConditionFault (Bool × List ByteText)
  | 0, soFar, operands => .ok (soFar, operands)
  | fuel + 1, soFar, operands => do
    let (holds, used) ← world.negation fuel operands
    if leadingOperator? used.tail = some .conjunction then
      world.conjunction fuel (soFar && holds) used.tail.tail
    else return (soFar && holds, used)

/-- Whether a condition holds that may be negated. -/
def negation (world : World) : (fuel : Nat) → List ByteText →
    Except ConditionFault (Bool × List ByteText)
  | 0, operands => .ok (false, operands)
  | fuel + 1, operands => do
    if leadingOperator? operands = some .negation then
      match operands.tail with
      | [] => return (true, operands)
      | rest =>
        let (holds, used) ← world.negation fuel rest
        return (!holds, used)
    else world.primary fuel operands

/-- Whether a condition holds that is not put together from others, or stands between
parentheses. -/
def primary (world : World) : (fuel : Nat) → List ByteText →
    Except ConditionFault (Bool × List ByteText)
  | 0, operands => .ok (false, operands)
  | _ + 1, [] => .ok (false, [])
  | fuel + 1, text :: rest => do
    match leadingOperator? (text :: rest) with
    | some .opening =>
      if leadingOperator? rest = some .closing then return (false, rest)
      else
        let (holds, used) ← world.disjunction fuel false rest
        if leadingOperator? used.tail = some .closing then return (holds, used.tail)
        else throw .openParenthesis
    | some .unary =>
      match rest with
      | [] => throw (.operandExpected text)
      | operand :: _ => return (← world.unary (String.ofList text) operand, rest)
    | _ => world.operandFrom text rest

end

/-- Whether a condition that takes up all operands holds. -/
def whole (world : World) (operands : List ByteText) : Except ConditionFault Bool := do
  let (holds, used) ←
    match operands with
    | [first, operator, _] =>
      if isBinaryTest operator then world.operandFrom first operands.tail
      else world.disjunction (8 * operands.length + 8) false operands
    | _ => world.disjunction (8 * operands.length + 8) false operands
  match used with
  | text :: _ :: _ => throw (.unexpectedOperator text)
  | _ => return holds

/-- Whether a condition holds; `fuel` bounds how often it is negated. All negations in front
of a few operands count as one. -/
def conditionFrom (world : World) : (fuel : Nat) → (isNegated : Bool) → List ByteText →
    Except ConditionFault Bool
  | 0, _, operands => world.whole operands
  | fuel + 1, isNegated, operands => do
    let isOperation :=
      match operands with
      | [_, operator, _] => isBinaryTest operator
      | _ => false
    let isShort := !isOperation && (operands.length = 3 || operands.length = 4)
    if isShort && operands.head? = some ['('] && operands.getLast? = some [')'] then
      return (← world.whole operands.tail.dropLast) != isNegated
    else if isShort && operands.head? = some ['!'] then
      world.conditionFrom fuel true operands.tail
    else return (← world.whole operands) != isNegated

/-- Whether a condition holds. Nothing at all is a condition that does not. -/
def condition (world : World) (operands : List ByteText) : Except ConditionFault Bool :=
  if operands.isEmpty then .ok false else world.conditionFrom operands.length false operands

end World

end BridgeSetup.Script
