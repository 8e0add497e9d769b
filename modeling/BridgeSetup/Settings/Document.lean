import BridgeSetup.Text.Lines

/-!
# Documents of settings

The part of TOML in which every value is a string: lines of the form `key = value` between
blank lines and comments. Keys are bare or quoted; values are basic or literal strings on
one line or on several. A document with anything else in it, such as a table, a number, a
key of several parts or a key that is given twice, is refused, since no setting could be
read from it.

Every reader takes the remaining characters and returns what it has read together with the
characters after it, or nothing when the text is malformed.
-/

namespace BridgeSetup.Document

/-- Whether a character may stand in a comment or in a string, quotes and backslashes
apart: a tab or anything that is not a control. -/
def isPlain (c : Char) : Bool :=
  c = '\t' || (0x20 ≤ c.toNat && c.toNat ≠ 0x7F)

/-- The characters after spaces and tabs. -/
def skipSpaces (chars : List Char) : List Char :=
  chars.dropWhile fun c => c = ' ' || c = '\t'

/-- The characters after a line end, if there is one. -/
def newline? : List Char → Option (List Char)
  | '\n' :: rest => some rest
  | '\r' :: '\n' :: rest => some rest
  | _ => none

/-- The value of a hexadecimal digit. -/
def hexDigit? (c : Char) : Option Nat :=
  if '0' ≤ c ∧ c ≤ '9' then some (c.toNat - '0'.toNat)
  else if 'a' ≤ c ∧ c ≤ 'f' then some (c.toNat - 'a'.toNat + 10)
  else if 'A' ≤ c ∧ c ≤ 'F' then some (c.toNat - 'A'.toNat + 10)
  else none

/-- The character whose code point is written with `count` hexadecimal digits; `value` is
the number read so far. -/
def codePoint : (count value : Nat) → List Char → Option (Char × List Char)
  | 0, value, rest => if value.isValidChar then some (Char.ofNat value, rest) else none
  | _ + 1, _, [] => none
  | count + 1, value, c :: rest => do
    codePoint count (16 * value + (← hexDigit? c)) rest

/-- The character that an escape sequence stands for, after the backslash. -/
def escaped : List Char → Option (Char × List Char)
  | 'b' :: rest => some ('\x08', rest)
  | 't' :: rest => some ('\t', rest)
  | 'n' :: rest => some ('\n', rest)
  | 'f' :: rest => some ('\x0c', rest)
  | 'r' :: rest => some ('\r', rest)
  | 'e' :: rest => some ('\x1b', rest)
  | '"' :: rest => some ('"', rest)
  | '\\' :: rest => some ('\\', rest)
  | 'x' :: rest => codePoint 2 0 rest
  | 'u' :: rest => codePoint 4 0 rest
  | 'U' :: rest => codePoint 8 0 rest
  | _ => none

/-- The characters after spaces, tabs and line ends. A carriage return counts only as part
of a line end. -/
def skipBlankLines : List Char → List Char
  | '\r' :: '\n' :: rest => skipBlankLines rest
  | c :: rest => if c = ' ' || c = '\t' || c = '\n' then skipBlankLines rest else c :: rest
  | [] => []

/-- The characters after white space that holds a line end, as it follows a backslash at the
end of a line. -/
def continuation? (chars : List Char) : Option (List Char) := do
  return skipBlankLines (← newline? (skipSpaces chars))

/-- A string on one line, after its opening quotation mark; `fuel` bounds its length. -/
def basic : (fuel : Nat) → List Char → Option (List Char × List Char)
  | 0, _ => none
  | _ + 1, [] => none
  | fuel + 1, c :: rest =>
    if c = '"' then some ([], rest)
    else if c = '\\' then do
      let (character, rest) ← escaped rest
      let (others, rest) ← basic fuel rest
      return (character :: others, rest)
    else if isPlain c then do
      let (others, rest) ← basic fuel rest
      return (c :: others, rest)
    else none

/-- A literal string on one line, after its opening quotation mark. -/
def literal : List Char → Option (List Char × List Char)
  | [] => none
  | c :: rest =>
    if c = '\'' then some ([], rest)
    else if isPlain c then do
      let (others, rest) ← literal rest
      return (c :: others, rest)
    else none

/-- The quotation marks at the start of a string on several lines: fewer than three belong
to it, the last three of up to five end it, and more are too many. -/
inductive Quotes where
  | inside (count : Nat)
  | final (count : Nat)
  | tooMany

/-- What a run of quotation marks in a string on several lines means. -/
def Quotes.ofCount (count : Nat) : Quotes :=
  if count < 3 then .inside count
  else if count ≤ 5 then .final (count - 3)
  else .tooMany

/-- The rest of a string on several lines, after its opening; `mark` is its quotation mark,
and `escapes` tells whether backslashes are special in it. -/
def manyLines (mark : Char) (escapes : Bool) : (fuel : Nat) → List Char →
    Option (List Char × List Char)
  | 0, _ => none
  | _ + 1, [] => none
  | fuel + 1, c :: rest =>
    if c = mark then
      let marks := (c :: rest).takeWhile (· = mark)
      let rest := rest.dropWhile (· = mark)
      match Quotes.ofCount marks.length with
      | .inside _ => do
        let (others, rest) ← manyLines mark escapes fuel rest
        return (marks ++ others, rest)
      | .final count => some (marks.take count, rest)
      | .tooMany => none
    else if c = '\\' && escapes then
      match continuation? rest with
      | some rest => manyLines mark escapes fuel rest
      | none => do
        let (character, rest) ← escaped rest
        let (others, rest) ← manyLines mark escapes fuel rest
        return (character :: others, rest)
    else
      match newline? (c :: rest) with
      | some next => do
        let (others, after) ← manyLines mark escapes fuel next
        return ((c :: rest).take (rest.length + 1 - next.length) ++ others, after)
      | none =>
        if isPlain c then do
          let (others, rest) ← manyLines mark escapes fuel rest
          return (c :: others, rest)
        else none

/-- The characters after the line end that may follow the opening of a string on several
lines. -/
def dropFirstNewline (chars : List Char) : List Char :=
  (newline? chars).getD chars

/-- A string value. -/
def value (chars : List Char) : Option (List Char × List Char) :=
  match chars with
  | '"' :: '"' :: '"' :: rest => manyLines '"' true (rest.length + 1) (dropFirstNewline rest)
  | '\'' :: '\'' :: '\'' :: rest =>
    manyLines '\'' false (rest.length + 1) (dropFirstNewline rest)
  | '"' :: rest => basic (rest.length + 1) rest
  | '\'' :: rest => literal rest
  | _ => none

/-- Whether a character may stand in a bare key. -/
def isBare (c : Char) : Bool :=
  c.isAlphanum || c = '_' || c = '-'

/-- A key of one part. -/
def key (chars : List Char) : Option (List Char × List Char) :=
  match chars with
  | '"' :: rest => basic (rest.length + 1) rest
  | '\'' :: rest => literal rest
  | _ =>
    match chars.takeWhile isBare with
    | [] => none
    | name => some (name, chars.dropWhile isBare)

/-- The characters after the line that has been read: white space, a comment and the line
end may follow, and nothing else. -/
def endOfLine (chars : List Char) : Option (List Char) :=
  let rest :=
    match skipSpaces chars with
    | '#' :: comment => comment.dropWhile isPlain
    | rest => rest
  match rest with
  | [] => some []
  | rest => newline? rest

/-- The settings of a document, after those in `known`; `fuel` bounds the number of lines. -/
def settingsFrom : (fuel : Nat) → (known : List (String × String)) → List Char →
    Option (List (String × String))
  | 0, _, _ => none
  | _ + 1, known, [] => some known
  | fuel + 1, known, chars =>
    match endOfLine chars with
    | some rest => settingsFrom fuel known rest
    | none => do
      let (name, rest) ← key (skipSpaces chars)
      match skipSpaces rest with
      | '=' :: rest =>
        let (text, rest) ← value (skipSpaces rest)
        let rest ← endOfLine rest
        let name := String.ofList name
        if (known.lookup name).isSome then none
        else settingsFrom fuel (known ++ [(name, String.ofList text)]) rest
      | _ => none

/-- The mark that may stand before a document. -/
def byteOrderMark : Char := '\uFEFF'

/-- The keys and values of a document, in its order. -/
def settings? (text : String) : Option (List (String × String)) :=
  let chars :=
    match text.toList with
    | [] => []
    | c :: rest => if c = byteOrderMark then rest else c :: rest
  settingsFrom (chars.length + 1) [] chars

end BridgeSetup.Document
