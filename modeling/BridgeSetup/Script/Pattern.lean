import BridgeSetup.FileTree.Access
import BridgeSetup.Script.Syntax

/-!
# Patterns

A pattern is a text in which unquoted stars, question marks and brackets stand for other
characters. Patterns select the clauses of a selection, cut values, and stand for the paths
that match them.
-/

namespace BridgeSetup.Script

/-- A character of an expanded word. -/
structure Letter where
  char : Char
  /-- Whether the character can only stand for itself. -/
  isQuoted : Bool
  deriving DecidableEq, Repr

/-- The text of several letters. -/
def textOf (letters : List Letter) : ByteText :=
  letters.map Letter.char

/-- Letters in which backslashes that are not quoted quote the next letter and are gone. -/
def withoutBackslashes : List Letter → List Letter
  | ⟨'\\', false⟩ :: next :: rest => ⟨next.char, true⟩ :: withoutBackslashes rest
  | letter :: rest => letter :: withoutBackslashes rest
  | [] => []

/-! ## Brackets -/

/-- A part of what stands between brackets. -/
inductive Choice where
  | range (first last : Char)
  /-- All characters of a named class. -/
  | named (name : String)
  deriving DecidableEq, Repr

/-- The names of the character classes. -/
def classNames : List String :=
  ["alnum", "cntrl", "lower", "space", "alpha", "digit", "print", "upper", "blank", "graph",
   "punct", "xdigit"]

/-- Whether a character is visible. -/
def isGraphic (c : Char) : Bool :=
  '!' ≤ c && c ≤ '~'

/-- Whether a character belongs to the class of the given name. -/
def inClass (name : String) (c : Char) : Bool :=
  match name with
  | "alnum" => c.isAlphanum
  | "alpha" => c.isAlpha
  | "digit" => c.isDigit
  | "upper" => c.isUpper
  | "lower" => c.isLower
  | "space" => c = ' ' || ('\t' ≤ c && c ≤ '\r')
  | "blank" => c = ' ' || c = '\t'
  | "cntrl" => c < ' ' || c = '\x7f'
  | "graph" => isGraphic c
  | "print" => isGraphic c || c = ' '
  | "punct" => isGraphic c && !c.isAlphanum
  | "xdigit" => c.isDigit || ('a' ≤ c && c ≤ 'f') || ('A' ≤ c && c ≤ 'F')
  | _ => false

/-- Whether a character is one of those that a choice stands for. -/
def Choice.accepts (c : Char) : Choice → Bool
  | range first last => first ≤ c && c ≤ last
  | named name => inClass name c

/-- The class that is named at the start of some letters, and the letters after its name. -/
def classAt? (letters : List Letter) : Option (String × List Letter) :=
  classNames.findSome? fun name =>
    let written := (":" ++ name ++ ":]").toList
    if (letters.take written.length).map Letter.char = written
    then some (name, letters.drop written.length) else none

/-- A choice that starts with the given letter, and the letters after it. -/
def choiceAt (letter : Letter) (rest : List Letter) : Choice × List Letter :=
  match if letter = ⟨'[', false⟩ then classAt? rest else none with
  | some (name, rest) => (.named name, rest)
  | none =>
    match rest with
    | ⟨'-', false⟩ :: last :: after =>
      if last = ⟨']', false⟩ then (.range letter.char letter.char, rest)
      else (.range letter.char last.char, after)
    | _ => (.range letter.char letter.char, rest)

/-- The choices up to a closing bracket, of which there is at least one, and the letters
after it; `fuel` bounds their number. -/
def choicesFrom : (fuel : Nat) → List Letter → Option (List Choice × List Letter)
  | 0, _ => none
  | _ + 1, [] => none
  | fuel + 1, letter :: rest =>
    let (choice, rest) := choiceAt letter rest
    match rest with
    | ⟨']', false⟩ :: rest => some ([choice], rest)
    | rest => (choicesFrom fuel rest).map fun (choices, rest) => (choice :: choices, rest)

/-! ## Patterns -/

/-- A part of a pattern. -/
inductive PatternPart where
  | exactly (c : Char)
  | anyOne
  | anyMany
  | oneOf (isNegated : Bool) (choices : List Choice)
  deriving DecidableEq, Repr

/-- The parts of a pattern; `fuel` bounds their number. -/
def partsOfPattern : (fuel : Nat) → List Letter → List PatternPart
  | 0, _ => []
  | _ + 1, [] => []
  | fuel + 1, ⟨c, isQuoted⟩ :: rest =>
    if isQuoted then .exactly c :: partsOfPattern fuel rest
    else
      match c with
      | '*' => .anyMany :: partsOfPattern fuel rest
      | '?' => .anyOne :: partsOfPattern fuel rest
      | '[' =>
        let isNegated := rest.head? = some ⟨'!', false⟩
        let inner := if isNegated then rest.tail else rest
        match choicesFrom (inner.length + 1) inner with
        | some (choices, after) => .oneOf isNegated choices :: partsOfPattern fuel after
        | none => .exactly c :: partsOfPattern fuel rest
      | c => .exactly c :: partsOfPattern fuel rest

/-- The pattern that letters write. -/
def patternOf (letters : List Letter) : List PatternPart :=
  let letters := withoutBackslashes letters
  partsOfPattern (letters.length + 1) letters

/-- Whether a part of a pattern stands for a character. -/
def PatternPart.accepts (c : Char) : PatternPart → Bool
  | exactly other => c = other
  | anyOne => true
  | anyMany => true
  | oneOf isNegated choices => choices.any (·.accepts c) != isNegated

/-- Whether a text or the rest of it from some place on has a property. -/
def anyRest (holds : ByteText → Bool) : ByteText → Bool
  | [] => holds []
  | c :: rest => holds (c :: rest) || anyRest holds rest

/-- Whether a pattern stands for a text. -/
def matchesText : List PatternPart → ByteText → Bool
  | [], text => text.isEmpty
  | .anyMany :: parts, text => anyRest (matchesText parts) text
  | _ :: _, [] => false
  | part :: parts, c :: rest => part.accepts c && matchesText parts rest

/-- A value without what a pattern stands for at its start or end. -/
def trimmed (how : Trimming) (pattern : List PatternPart) (value : ByteText) : ByteText :=
  let lengths := List.range (value.length + 1)
  let lengths := if how.longest then lengths.reverse else lengths
  if how.fromEnd then
    match lengths.find? fun n => matchesText pattern (value.drop (value.length - n)) with
    | some n => value.take (value.length - n)
    | none => value
  else
    match lengths.find? fun n => matchesText pattern (value.take n) with
    | some n => value.drop n
    | none => value

/-! ## Paths -/

/-- A text of byte characters as a path. -/
def pathOf (text : ByteText) : Path :=
  ⟨Utf8.decodeLossy (toBytes text)⟩

/-- Letters cut at the separators of a path. -/
def segmentsOf : List Letter → List (List Letter)
  | [] => [[]]
  | letter :: rest =>
    match segmentsOf rest with
    | [] => [[letter]]
    | segment :: segments =>
      if letter.char = '/' then [] :: segment :: segments
      else (letter :: segment) :: segments

/-- Whether a part of a pattern stands for more than one character. -/
def PatternPart.isOpen : PatternPart → Bool
  | exactly _ => false
  | _ => true

/-- The names in the directory that a path names, with those of the directory itself and its
parent. -/
def namesIn (tree : FileTree) (here : Location) (path : Path) : List ByteText :=
  match tree.locate here path with
  | .ok location =>
    if tree.isDirectoryAt location then
      ["."].map ofText ++ [".."].map ofText ++ tree.nodes.filterMap fun (place, _) =>
        match place with
        | name :: outer => if outer = location then some (ofText name) else none
        | [] => none
    else []
  | .error _ => []

/-- The paths that match segments after a path that has been matched. -/
def pathsFrom (tree : FileTree) (here : Location) : (before : ByteText) →
    List (List Letter) → List ByteText
  | before, [] => if tree.pathExists here (pathOf before) then [before] else []
  | before, segment :: rest =>
    let pattern := partsOfPattern (segment.length + 1) segment
    let separator := if rest.isEmpty then [] else ['/']
    if pattern.any PatternPart.isOpen then
      let directory := if before.isEmpty then ⟨"."⟩ else pathOf before
      let shown := (segment.head?.map Letter.char) = some '.'
      let names := (namesIn tree here directory).filter fun name =>
        (shown || name.head? ≠ some '.') && matchesText pattern name
      if rest.isEmpty then names.map (before ++ ·)
      else names.flatMap fun name => pathsFrom tree here (before ++ name ++ separator) rest
    else pathsFrom tree here (before ++ textOf segment ++ separator) rest

/-- The paths that letters stand for, in their order. Letters that match no path, or are not
a pattern, stand for themselves. -/
def pathsOf (tree : FileTree) (here : Location) (letters : List Letter) : List ByteText :=
  if (patternOf letters).any PatternPart.isOpen then
    let found := pathsFrom tree here [] (segmentsOf (withoutBackslashes letters))
    if found.isEmpty then [textOf letters] else found.mergeSort inOrder
  else [textOf letters]

end BridgeSetup.Script
