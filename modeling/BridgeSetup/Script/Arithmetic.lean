import BridgeSetup.Script.Syntax

/-!
# Arithmetic

Numbers in texts, and the expressions that scripts compute with. Values are whole numbers of
64 bits. An expression is evaluated while it is read, so that of two faults the first one is
reported; a part whose value does not matter is read without being evaluated.
-/

namespace BridgeSetup.Script

/-! ## Numbers -/

/-- Whether a character is white space around numbers. -/
def isNumberBlank (c : Char) : Bool :=
  c = ' ' || ('\t' ≤ c && c ≤ '\r')

/-- The value of a digit in the usual bases. -/
def digitValue? (base : Nat) (c : Char) : Option Nat :=
  let value :=
    if c.isDigit then c.toNat - '0'.toNat
    else if 'a' ≤ c && c ≤ 'z' then c.toNat - 'a'.toNat + 10
    else if 'A' ≤ c && c ≤ 'Z' then c.toNat - 'A'.toNat + 10
    else base
  if value < base then some value else none

/-- The value of the digits at the start of a text, and the text after them. There may be
none. -/
def digitsFrom (base : Nat) : (value : Nat) → ByteText → Nat × ByteText
  | value, [] => (value, [])
  | value, c :: rest =>
    match digitValue? base c with
    | some digit => digitsFrom base (base * value + digit) rest
    | none => (value, c :: rest)

/-- The number at the start of a text, and the text after it. -/
def unsignedFrom? (detectsBase : Bool) (text : ByteText) : Option (Nat × ByteText) :=
  let startsWithDigit (base : Nat) (text : ByteText) : Bool :=
    (text.head?.bind (digitValue? base)).isSome
  match text with
  | '0' :: x :: rest =>
    if detectsBase && (x = 'x' || x = 'X') && startsWithDigit 16 rest then
      some (digitsFrom 16 0 rest)
    else some (digitsFrom (if detectsBase then 8 else 10) 0 text)
  | text => if startsWithDigit 10 text then some (digitsFrom 10 0 text) else none

/-- The number with an optional sign after white space at the start of a text, and the text
after it. A base other than ten is recognized by the first digits if that is asked for. -/
def integerFrom? (detectsBase : Bool) (text : ByteText) : Option (Int × ByteText) :=
  match text.dropWhile isNumberBlank with
  | '-' :: rest =>
    (unsignedFrom? detectsBase rest).map fun (value, rest) => (-Int.ofNat value, rest)
  | '+' :: rest =>
    (unsignedFrom? detectsBase rest).map fun (value, rest) => (Int.ofNat value, rest)
  | text => (unsignedFrom? detectsBase text).map fun (value, rest) => (Int.ofNat value, rest)

/-- The greatest value. -/
def greatestValue : Int := Int64.maxValue.toInt

/-- The least value. -/
def leastValue : Int := Int64.minValue.toInt

/-- Whether a number is a value. -/
def isValue (number : Int) : Bool :=
  leastValue ≤ number && number ≤ greatestValue

/-- The value that is nearest to a number. -/
def nearestValue (number : Int) : Int :=
  max leastValue (min greatestValue number)

/-- A text that is a number with white space around it. -/
def integer? (text : ByteText) : Option Int :=
  match integerFrom? false text with
  | some (number, rest) =>
    if rest.all isNumberBlank && isValue number then some number else none
  | none => none

/-- The value of a variable as a number, which may be in any base and is zero if there is
nothing. -/
def variableValue? (text : ByteText) : Option Int :=
  match integerFrom? true text with
  | some (number, rest) =>
    if rest.all isNumberBlank && isValue number then some number else none
  | none => if text.all isNumberBlank then some 0 else none

/-! ## Expressions -/

/-- A token of an expression. -/
inductive Symbol where
  | number (value : Int64)
  | name (text : ByteText)
  | operator (text : String)
  /-- A character that has no meaning. -/
  | stray
  deriving DecidableEq, Repr

/-- The operators, those that start with others first. -/
def arithmeticOperators : List String :=
  ["<<=", ">>=", "<<", ">>", "<=", ">=", "==", "!=", "&&", "||", "+=", "-=", "*=", "/=", "%=",
   "&=", "^=", "|=", "<", ">", "=", "!", "&", "|", "^", "+", "-", "*", "/", "%", "~", "?", ":",
   "(", ")"]

/-- The operator at the start of a text. -/
def arithmeticOperator? (text : ByteText) : Option String :=
  arithmeticOperators.find? fun operator => operator.toList.isPrefixOf text

/-- The tokens of an expression; `fuel` bounds their number. -/
def symbolsFrom : (fuel : Nat) → ByteText → List Symbol
  | 0, _ => []
  | _ + 1, [] => []
  | fuel + 1, c :: rest =>
    if [' ', '\t', '\n'].contains c then symbolsFrom fuel rest
    else if c.isDigit then
      match unsignedFrom? true (c :: rest) with
      | some (value, rest) =>
        .number (Int64.ofInt (nearestValue value)) :: symbolsFrom fuel rest
      | none => [.stray]
    else if startsName c then
      .name ((c :: rest).takeWhile continuesName) ::
        symbolsFrom fuel ((c :: rest).dropWhile continuesName)
    else
      match arithmeticOperator? (c :: rest) with
      | some operator =>
        .operator operator :: symbolsFrom fuel ((c :: rest).drop operator.length)
      | none => [.stray]

/-- What can go wrong with an expression. -/
inductive ArithmeticFault where
  | expected (what : String)
  | divisionByZero
  /-- The value of a variable is not a number. -/
  | badNumber (text : ByteText)
  | tooDeep
  deriving DecidableEq, Repr

/-- What is said about an expression. -/
def ArithmeticFault.message (expression : ByteText) : ArithmeticFault → ByteText
  | badNumber text => "Illegal number: ".toList ++ text
  | expected what => shown ("expecting " ++ what)
  | divisionByZero => shown "division by zero"
  | tooDeep => shown "too deep"
where
  /-- A text about the whole expression. -/
  shown (text : String) : ByteText :=
    ("arithmetic expression: " ++ text ++ ": \"").toList ++ expression ++ ['"']

/-- The state of an evaluation. -/
structure Calculation where
  symbols : List Symbol
  /-- The values that variables have been given, the latest first. -/
  assigned : List (ByteText × Int64) := []

/-- A computation with an expression. -/
abbrev Calculator := StateT Calculation (Except ArithmeticFault)

namespace Calculator

/-- Takes the next token. -/
def next? : Calculator (Option Symbol) :=
  modifyGet fun state => (state.symbols.head?, { state with symbols := state.symbols.tail })

/-- The next token, which stays where it is. -/
def peek? : Calculator (Option Symbol) :=
  return (← get).symbols.head?

/-- Takes the next token if it is the given operator, and tells whether it was. -/
def accept (operator : String) : Calculator Bool := do
  if (← peek?) = some (.operator operator) then
    let _ ← next?
    return true
  else return false

/-- The number that a comparison yields. -/
def ofTest (holds : Bool) : Int64 :=
  if holds then 1 else 0

/-- How tightly a binary operator binds its operands, the tightest first. -/
def rank? : String → Option Nat
  | "*" | "/" | "%" => some 0
  | "+" | "-" => some 1
  | "<<" | ">>" => some 2
  | "<" | "<=" | ">" | ">=" => some 3
  | "==" | "!=" => some 4
  | "&" => some 5
  | "^" => some 6
  | "|" => some 7
  | _ => none

/-- The loosest of all binary operators. -/
def loosest : Nat := 7

/-- The value of a binary operator. -/
def apply (operator : String) (first second : Int64) : Except ArithmeticFault Int64 :=
  match operator with
  | "*" => .ok (first * second)
  | "/" => if second = 0 then .error .divisionByZero else .ok (first / second)
  | "%" => if second = 0 then .error .divisionByZero else .ok (first % second)
  | "+" => .ok (first + second)
  | "-" => .ok (first - second)
  | "<<" => .ok (first <<< second)
  | ">>" => .ok (first >>> second)
  | "<" => .ok (ofTest (decide (first < second)))
  | "<=" => .ok (ofTest (decide (first ≤ second)))
  | ">" => .ok (ofTest (decide (second < first)))
  | ">=" => .ok (ofTest (decide (second ≤ first)))
  | "==" => .ok (ofTest (first == second))
  | "!=" => .ok (ofTest (first != second))
  | "&" => .ok (first &&& second)
  | "^" => .ok (first ^^^ second)
  | _ => .ok (first ||| second)

/-- The operator that an assignment applies first, if the token is one. -/
def assigning? : Symbol → Option (Option String)
  | .operator "=" => some none
  | .operator operator =>
    if ["+=", "-=", "*=", "/=", "%=", "&=", "^=", "|=", "<<=", ">>="].contains operator
    then some (some (String.ofList operator.toList.dropLast)) else none
  | _ => none

/-- The number that a variable holds, where `value` tells the values from before. -/
def valueOf (value : ByteText → ByteText) (name : ByteText) : Calculator Int64 := do
  match (← get).assigned.lookup name with
  | some number => return number
  | none =>
    match variableValue? (value name) with
    | some number => return Int64.ofInt number
    | none => throw (.badNumber (value name))

mutual

/-- Evaluates an assignment or anything that binds more tightly. Like the other readers it
evaluates only what `counts`, and `fuel` bounds its depth. -/
def assignment (value : ByteText → ByteText) : (fuel : Nat) → (counts : Bool) →
    Calculator Int64
  | 0, _ => throw .tooDeep
  | fuel + 1, counts => do
    match (← get).symbols with
    | .name name :: symbol :: rest =>
      match assigning? symbol with
      | some operator =>
        modify ({ · with symbols := rest })
        let result ← assignment value fuel counts
        if !counts then return result
        else
          let result ←
            match operator with
            | none => pure result
            | some operator => liftM (apply operator (← valueOf value name) result)
          modify fun state => { state with assigned := (name, result) :: state.assigned }
          return result
      | none => conditional value fuel counts
    | _ => conditional value fuel counts

/-- Evaluates a choice between two values. -/
def conditional (value : ByteText → ByteText) : (fuel : Nat) → (counts : Bool) →
    Calculator Int64
  | 0, _ => throw .tooDeep
  | fuel + 1, counts => do
    let test ← disjunction value fuel counts
    if ← accept "?" then
      let yes ← assignment value fuel (counts && test ≠ 0)
      if ← accept ":" then
        let no ← conditional value fuel (counts && test = 0)
        return if test ≠ 0 then yes else no
      else throw (.expected "':'")
    else return test

/-- Evaluates a sequence of alternatives. -/
def disjunction (value : ByteText → ByteText) : (fuel : Nat) → (counts : Bool) →
    Calculator Int64
  | 0, _ => throw .tooDeep
  | fuel + 1, counts => do
    let first ← conjunction value fuel counts
    if ← accept "||" then
      let second ← disjunction value fuel (counts && first = 0)
      return ofTest (first ≠ 0 || second ≠ 0)
    else return first

/-- Evaluates a sequence of conditions. -/
def conjunction (value : ByteText → ByteText) : (fuel : Nat) → (counts : Bool) →
    Calculator Int64
  | 0, _ => throw .tooDeep
  | fuel + 1, counts => do
    let first ← operand value fuel counts
    let first ← binary value fuel counts first loosest
    if ← accept "&&" then
      let second ← conjunction value fuel (counts && first ≠ 0)
      return ofTest (first ≠ 0 && second ≠ 0)
    else return first

/-- Evaluates the binary operators after a first operand that bind at least as tightly as the
given rank says. -/
def binary (value : ByteText → ByteText) : (fuel : Nat) → (counts : Bool) → (first : Int64) →
    (rank : Nat) → Calculator Int64
  | 0, _, _, _ => throw .tooDeep
  | fuel + 1, counts, first, rank => do
    match ← peek? with
    | some (.operator operator) =>
      match rank? operator with
      | some own =>
        if own ≤ rank then
          let _ ← next?
          let second ← operand value fuel counts
          let second ←
            match own with
            | 0 => pure second
            | tighter + 1 => binary value fuel counts second tighter
          let result ← if counts then liftM (apply operator first second) else pure second
          binary value fuel counts result rank
        else return first
      | none => return first
    | _ => return first

/-- Evaluates a number, a variable, a sign before an operand or an expression between
parentheses. -/
def operand (value : ByteText → ByteText) : (fuel : Nat) → (counts : Bool) → Calculator Int64
  | 0, _ => throw .tooDeep
  | fuel + 1, counts => do
    match ← next? with
    | some (.number number) => return number
    | some (.name name) => if counts then valueOf value name else return 0
    | some (.operator "(") =>
      let result ← assignment value fuel counts
      if ← accept ")" then return result else throw (.expected "')'")
    | some (.operator "+") => operand value fuel counts
    | some (.operator "-") => return -(← operand value fuel counts)
    | some (.operator "!") => return ofTest ((← operand value fuel counts) = 0)
    | some (.operator "~") => return ~~~(← operand value fuel counts)
    | _ => throw (.expected "primary")

end

end Calculator

/-- The value of an expression, and the values that it gives to variables in their order;
`value` tells the values of variables from before. -/
def calculate (value : ByteText → ByteText) (expression : ByteText) :
    Except ArithmeticFault (Int × List (ByteText × ByteText)) := do
  let symbols := symbolsFrom (expression.length + 1) expression
  let steps := 16 * (symbols.length + 1)
  let (result, state) ← (Calculator.assignment value steps true).run { symbols }
  if state.symbols.isEmpty then
    let assigned := state.assigned.reverse.map fun (name, number) =>
      (name, (toString number.toInt).toList)
    return (result.toInt, assigned)
  else throw (.expected "EOF")

end BridgeSetup.Script
