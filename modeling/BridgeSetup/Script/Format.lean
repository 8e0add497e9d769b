import BridgeSetup.Script.Arithmetic

/-!
# Formatted output

What the commands that write texts make of their operands: escapes with backslashes, and
formats whose conversions take up operands and are used again until there are none left.
-/

namespace BridgeSetup.Script

/-! ## Escapes -/

/-- The value of a text of octal digits. -/
def octalValue (digits : ByteText) : Nat :=
  digits.foldl (fun value digit => 8 * value + (digit.toNat - '0'.toNat)) 0

/-- Whether a character is an octal digit. -/
def isOctal (c : Char) : Bool :=
  '0' ≤ c && c ≤ '7'

/-- The byte character with the value of octal digits. -/
def octalChar (digits : ByteText) : Char :=
  Char.ofNat (octalValue digits % 256)

/-- The character that a letter after a backslash stands for. -/
def escapedLetter? : Char → Option Char
  | 'a' => some '\x07'
  | 'b' => some '\x08'
  | 'e' => some '\x1b'
  | 'f' => some '\x0c'
  | 'n' => some '\n'
  | 'r' => some '\r'
  | 't' => some '\t'
  | 'v' => some '\x0b'
  | '\\' => some '\\'
  | _ => none

/-- What a backslash before a text stands for, and the text after it. A backslash that
escapes nothing stands for itself. -/
def escapeAt : ByteText → Char × ByteText
  | [] => ('\\', [])
  | c :: rest =>
    match escapedLetter? c with
    | some letter => (letter, rest)
    | none =>
      let digits := ((c :: rest).take 3).takeWhile isOctal
      if digits.isEmpty then ('\\', c :: rest)
      else (octalChar digits, (c :: rest).drop digits.length)

/-- A text whose escapes are resolved, and whether it asks for the end of all output; `fuel`
bounds its length. A zero may stand before the octal digits of an escape. -/
def resolved : (fuel : Nat) → ByteText → ByteText × Bool
  | 0, _ => ([], false)
  | _ + 1, [] => ([], false)
  | _ + 1, '\\' :: 'c' :: _ => ([], true)
  | fuel + 1, '\\' :: '0' :: rest =>
    let digits := (rest.take 3).takeWhile isOctal
    let (others, ended) := resolved fuel (rest.drop digits.length)
    (octalChar digits :: others, ended)
  | fuel + 1, '\\' :: rest =>
    let (c, rest) := escapeAt rest
    let (others, ended) := resolved fuel rest
    (c :: others, ended)
  | fuel + 1, c :: rest =>
    let (others, ended) := resolved fuel rest
    (c :: others, ended)

/-- A text whose escapes are resolved, and whether it asks for the end of all output. -/
def resolveEscapes (text : ByteText) : ByteText × Bool :=
  resolved (text.length + 1) text

/-- Texts with spaces between them and a line end after them unless one asks for the end of
all output. -/
def echoed (endsLine : Bool) : List ByteText → ByteText
  | [] => if endsLine then ['\n'] else []
  | [text] =>
    let (text, ended) := resolveEscapes text
    if ended || !endsLine then text else text ++ ['\n']
  | text :: others =>
    let (text, ended) := resolveEscapes text
    if ended then text else text ++ ' ' :: echoed endsLine others

/-! ## Conversions -/

/-- How a converted operand is laid out. -/
structure Layout where
  alignsLeft : Bool := false
  showsPlus : Bool := false
  showsBlank : Bool := false
  showsBase : Bool := false
  fillsZeros : Bool := false
  width : Nat := 0
  precision : Option Nat := none
  deriving DecidableEq, Repr

namespace Layout

/-- A layout with one more flag. -/
def withFlag (layout : Layout) : Char → Layout
  | '-' => { layout with alignsLeft := true }
  | '+' => { layout with showsPlus := true }
  | ' ' => { layout with showsBlank := true }
  | '#' => { layout with showsBase := true }
  | '0' => { layout with fillsZeros := true }
  | _ => layout

/-- A layout with a width, which is also a flag if it is negative. -/
def withWidth (layout : Layout) (width : Int) : Layout :=
  if width < 0 then { layout with alignsLeft := true, width := width.natAbs }
  else { layout with width := width.natAbs }

/-- A text filled up with blanks to the width. -/
def pad (layout : Layout) (text : ByteText) : ByteText :=
  let blanks := List.replicate (layout.width - text.length) ' '
  if layout.alignsLeft then text ++ blanks else blanks ++ text

/-- A text, of which not more is shown than the precision says. -/
def text (layout : Layout) (text : ByteText) : ByteText :=
  layout.pad (match layout.precision with
    | none => text
    | some length => text.take length)

/-- Digits after a sign or a mark of their base. -/
def digits (layout : Layout) (mark digits : ByteText) : ByteText :=
  match layout.precision with
  | some least =>
    let digits := if least = 0 && digits = ['0'] then [] else digits
    layout.pad (mark ++ List.replicate (least - digits.length) '0' ++ digits)
  | none =>
    if layout.fillsZeros && !layout.alignsLeft then
      let zeros := layout.width - mark.length - digits.length
      mark ++ List.replicate zeros '0' ++ digits
    else layout.pad (mark ++ digits)

/-- A number with its sign. -/
def integer (layout : Layout) (number : Int) : ByteText :=
  let sign :=
    if number < 0 then ['-'] else if layout.showsPlus then ['+']
    else if layout.showsBlank then [' '] else []
  layout.digits sign (toString number.natAbs).toList

/-- A number without a sign in one of the usual bases. -/
def natural (layout : Layout) (conversion : Char) (number : Nat) : ByteText :=
  match conversion with
  | 'o' =>
    let digits := Nat.toDigits 8 number
    let least := layout.precision.getD 1
    let needsZero := layout.showsBase && number ≠ 0 && least ≤ digits.length
    layout.digits [] (if needsZero then '0' :: digits else digits)
  | 'x' =>
    layout.digits (if layout.showsBase && number ≠ 0 then ['0', 'x'] else [])
      (Nat.toDigits 16 number)
  | 'X' =>
    layout.digits (if layout.showsBase && number ≠ 0 then ['0', 'X'] else [])
      ((Nat.toDigits 16 number).map Char.toUpper)
  | _ => layout.digits [] (toString number).toList

end Layout

/-! ## Formats -/

/-- How far the use of a format has come. -/
structure Formatting where
  output : ByteText := []
  operands : List ByteText
  complaints : List ByteText := []

/-- Why the use of a format ends. -/
inductive FormattingEnd where
  /-- An operand asks for the end of all output. -/
  | asked
  /-- The format is wrong. -/
  | badFormat (complaint : ByteText)

/-- A step in the use of a format. -/
abbrev Formatter := ExceptT FormattingEnd (StateM Formatting)

namespace Formatter

/-- Writes a text. -/
def put (text : ByteText) : Formatter Unit :=
  modify fun state => { state with output := state.output ++ text }

/-- Complains without an end. -/
def complain (complaint : ByteText) : Formatter Unit :=
  modify fun state => { state with complaints := state.complaints ++ [complaint] }

/-- Takes the next operand. -/
def operand? : Formatter (Option ByteText) :=
  modifyGet fun state =>
    (state.operands.head?, { state with operands := state.operands.tail })

/-- The greatest number without a sign. -/
def greatestNatural : Nat := 0xFFFFFFFFFFFFFFFF

/-- The number without a sign that stands for a number. -/
def asNatural (number : Int) : Nat :=
  (number % 0x10000000000000000).toNat

/-- The next operand as a number: the code of a character after a quote, or a number in any
base. What cannot be read is complained about. -/
def number (isSigned : Bool) : Formatter Int := do
  match ← operand? with
  | none => return 0
  | some text =>
    match text with
    | '"' :: rest | '\'' :: rest => return (rest.head?.map Char.toNat).getD 0
    | text =>
      match integerFrom? true text with
      | none =>
        if !text.isEmpty then complain (text ++ ": expected numeric value".toList)
        return 0
      | some (number, rest) =>
        let fits :=
          if isSigned then isValue number else decide (number.natAbs ≤ greatestNatural)
        if !rest.isEmpty then complain (text ++ ": not completely converted".toList)
        else if !fits then complain (text ++ ": Numerical result out of range".toList)
        if isSigned then return nearestValue number
        else if fits then return asNatural number
        else return greatestNatural

/-- Writes the next operand as a conversion asks for it; `specification` is how the
conversion is written. -/
def convert (layout : Layout) (conversion : Char) (specification : ByteText) :
    Formatter Unit := do
  match conversion with
  | 's' => put (layout.text ((← operand?).getD []))
  | 'b' =>
    let (text, ended) := resolveEscapes ((← operand?).getD [])
    put (layout.text text)
    if ended then throw .asked
  | 'c' => put (layout.pad [((← operand?).bind List.head?).getD '\x00'])
  | 'd' | 'i' => put (layout.integer (← number true))
  | 'o' | 'u' | 'x' | 'X' => put (layout.natural conversion (← number false).natAbs)
  | _ => throw (.badFormat (specification ++ ": invalid directive".toList))

/-- A number at the start of a text, or the next operand where a star stands for it, and the
text after it. There may be neither. -/
def count (text : ByteText) : Formatter (Int × ByteText) := do
  match text with
  | '*' :: rest => return (← number true, rest)
  | text => let (value, rest) := digitsFrom 10 0 text; return (Int.ofNat value, rest)

/-- Carries out the conversion at the start of a text, which follows a percent sign, and
yields the text after it. -/
def conversionAt (text : ByteText) : Formatter ByteText := do
  let isFlag (c : Char) : Bool := ['#', '-', '+', ' ', '0'].contains c
  let layout := (text.takeWhile isFlag).foldl Layout.withFlag {}
  let (width, rest) ← count (text.dropWhile isFlag)
  let layout := layout.withWidth width
  let (layout, rest) ←
    match rest with
    | '.' :: rest =>
      let (precision, rest) ← count rest
      let precision := if precision < 0 then none else some precision.natAbs
      pure ({ layout with precision }, rest)
    | rest => pure (layout, rest)
  match rest with
  | [] => throw (.badFormat "missing format character".toList)
  | conversion :: rest =>
    convert layout conversion ('%' :: text.take (text.length - rest.length))
    return rest

/-- Uses a format once; `fuel` bounds its length. -/
def useOnce : (fuel : Nat) → ByteText → Formatter Unit
  | 0, _ => return
  | _ + 1, [] => return
  | fuel + 1, '\\' :: rest => do
    let (c, rest) := escapeAt rest
    put [c]
    useOnce fuel rest
  | fuel + 1, '%' :: '%' :: rest => do
    put ['%']
    useOnce fuel rest
  | fuel + 1, '%' :: rest => do
    let rest ← conversionAt rest
    useOnce fuel rest
  | fuel + 1, c :: rest => do
    put [c]
    useOnce fuel rest

/-- Uses a format as often as it takes to use up all operands, at least once; `fuel` bounds
their number. -/
def use (format : ByteText) : (fuel : Nat) → Formatter Unit
  | 0 => return
  | fuel + 1 => do
    let before := (← get).operands.length
    useOnce (format.length + 1) format
    let left := (← get).operands.length
    if left ≠ 0 && left ≠ before then use format fuel

end Formatter

/-- What the use of a format on operands writes, what it complains about, and its status. -/
def formatted (format : ByteText) (operands : List ByteText) :
    ByteText × List ByteText × Nat :=
  match (Formatter.use format (operands.length + 1)).run { operands } with
  | (.error (.badFormat complaint), state) =>
    (state.output, state.complaints ++ [complaint], 2)
  | (_, state) => (state.output, state.complaints, if state.complaints.isEmpty then 0 else 1)

end BridgeSetup.Script
