import BridgeSetup.Text.Bytes

/-!
# A command language

The modules of `Script` stand for `/bin/sh`. The program starts other programs in two places, to
ask an interpreter about itself and to call the installer in it, and an interpreter may be a shell
script: one that stands in for Python where there is none, or that starts the real one. What
programs do is a parameter of everything else, `Programs`, and no statement depends on more. Here
it gets a value, which the outer layer of the program hands over (`Script.programs`).

A shell that is started in this way has no terminal and nothing to read, and ends before the program
goes on. Job control, aliases, limits, the reading of options, symbolic modes, and the paths and
times that a shell keeps for itself are left out.

Commands have quoted words, parameters, substitutions and redirections, and are put together to
pipelines, lists, conditionals, loops and functions. A text is kept as a list of byte characters,
that is, of characters below `U+0100` that stand for one byte each, so that no byte is lost.
-/

namespace BridgeSetup.Script

/-- A text in which every character stands for one byte. -/
abbrev ByteText := List Char

/-- Whether two texts are in the order of their bytes. -/
def inOrder : ByteText → ByteText → Bool
  | [], _ => true
  | _ :: _, [] => false
  | c :: first, d :: second => c.toNat < d.toNat || (c = d && inOrder first second)

/-- The byte characters of a byte sequence. -/
def ofBytes (bytes : Bytes) : ByteText :=
  bytes.map fun byte => Char.ofNat byte.toNat

/-- The bytes of a text of byte characters. -/
def toBytes (text : ByteText) : Bytes :=
  text.map fun c => c.toNat.toUInt8

/-- The byte characters of the encoding of a text. -/
def ofText (text : String) : ByteText :=
  ofBytes (Bytes.ofString text)

/-- What a word does in the place of a parameter. -/
inductive Replacement where
  /-- It stands for a parameter that is not set. -/
  | standsIn
  /-- It becomes the value of a parameter that is not set. -/
  | becomesValue
  /-- It says what is wrong with a parameter that is not set. -/
  | complains
  /-- It stands for a parameter that is set. -/
  | covers
  deriving DecidableEq, Repr

/-- What a pattern takes away from the value of a parameter. -/
structure Trimming where
  /-- Whether the end is taken away, and not the start. -/
  fromEnd : Bool
  /-- Whether as much as possible is taken away, and not as little. -/
  longest : Bool
  deriving DecidableEq, Repr

/-- How a file is opened for a stream. -/
inductive OpenMode where
  | read
  | readWrite
  /-- For writing; a file that exists is emptied unless that is forbidden. -/
  | write
  /-- For writing; a file that exists is emptied in any case. -/
  | overwrite
  | append
  deriving DecidableEq, Repr

mutual

/-- A part of a word. What a quoted part yields is neither cut nor matched with files. -/
inductive Piece where
  | literal (text : ByteText) (isQuoted : Bool)
  | parameter (name : ByteText) (use : Use) (isQuoted : Bool)
  /-- What commands write to their output. -/
  | output (commands : Command) (isQuoted : Bool)
  /-- The value of an arithmetic expression. -/
  | arithmetic (expression : List Piece) (isQuoted : Bool)

/-- What is made of the value of a parameter. -/
inductive Use where
  | value
  | length
  /-- A word takes its place; `emptyCounts` tells whether an empty value counts as none. -/
  | replaced (how : Replacement) (emptyCounts : Bool) (word : List Piece)
  | trimmed (how : Trimming) (pattern : List Piece)
  /-- Nothing that has a meaning. -/
  | meaningless

/-- A change to the streams of a command. -/
inductive Redirection where
  | file (stream : Nat) (mode : OpenMode) (target : List Piece)
  /-- A stream becomes the same as another one, which a word names, or is closed. -/
  | duplicate (stream : Nat) (source : List Piece)
  /-- A stream reads the document of the given number. -/
  | document (stream : Nat) (number : Nat)

/-- A command. The line on which it starts is kept for messages. -/
inductive Command where
  | simple (line : Nat) (assignments : List (ByteText × List Piece))
      (words : List (List Piece)) (redirections : List Redirection)
  | pipeline (stages : List Command)
  /-- A command that succeeds if the given one fails. -/
  | negated (command : Command)
  | both (first second : Command)
  | either (first second : Command)
  | sequence (first second : Command)
  /-- A command that is not waited for. -/
  | background (command : Command)
  | redirected (line : Nat) (command : Command) (redirections : List Redirection)
  /-- A command whose changes to the state of the shell are lost. -/
  | enclosed (line : Nat) (command : Command) (redirections : List Redirection)
  | conditional (test yes : Command) (no : Option Command)
  /-- A body that is run as long as a test has the given outcome. -/
  | loop (whileHolds : Bool) (test body : Command)
  | forEach (line : Nat) (name : ByteText) (words : List (List Piece)) (body : Command)
  | selection (line : Nat) (subject : List Piece)
      (clauses : List (List (List Piece) × Option Command))
  | definition (name : ByteText) (body : Command)

end

/-- A word of a command; quotes make also an empty text a word. -/
abbrev Word := List Piece

/-- The text of a word that is written without any quotes and substitutions. -/
def Word.plain? : Word → Option ByteText
  | [.literal text false] => some text
  | _ => none

/-- Whether a character may start a name. -/
def startsName (c : Char) : Bool :=
  c.isAlpha || c = '_'

/-- Whether a character may stand in a name. -/
def continuesName (c : Char) : Bool :=
  startsName c || c.isDigit

/-- Whether a text is a name of a variable. -/
def isName : ByteText → Bool
  | [] => false
  | c :: rest => startsName c && rest.all continuesName

/-- A text that has a name, an equals sign and anything after it, taken apart. -/
def assignment? (text : ByteText) : Option (ByteText × ByteText) :=
  let name := text.takeWhile continuesName
  match text.dropWhile continuesName with
  | '=' :: value => if isName name then some (name, value) else none
  | _ => none

/-- A word that starts like an assignment, taken apart. -/
def Word.assignment? : Word → Option (ByteText × Word)
  | .literal text false :: rest =>
    (Script.assignment? text).map fun (name, value) =>
      (name, if value.isEmpty then rest else .literal value false :: rest)
  | _ => none

end BridgeSetup.Script
