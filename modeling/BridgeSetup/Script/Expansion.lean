import BridgeSetup.Script.Arithmetic
import BridgeSetup.Script.Shell

/-!
# Expansion

What the words of a command stand for. A word is first expanded to `Mark`s, which know of
each character whether it is quoted and whether it is the result of an expansion; results
are then cut at the separators, and fields that are patterns become the paths that match
them. What commands and words inside a word mean is a parameter, `Inner`.
-/

namespace BridgeSetup.Script

/-- A part of an expanded word. -/
inductive Mark where
  /-- A character; `isCut` tells whether it may be a separator. -/
  | letter (letter : Letter) (isCut : Bool)
  /-- Quotes, which make a field of nothing. -/
  | quotes
  /-- A place between two arguments. -/
  | gap
  /-- An empty argument that is the last of all arguments. -/
  | lastEmpty
  /-- The end of the result of one expansion. -/
  | seam
  deriving DecidableEq, Repr

/-- Where a home directory may be written as a tilde. -/
inductive TildePlace where
  | nowhere
  | start
  /-- At the start and after colons. -/
  | startAndColons
  deriving DecidableEq, Repr

/-- How a word is expanded. -/
structure Manner where
  /-- Whether the word may become several fields. -/
  splits : Bool := false
  /-- Whether text that is not quoted is cut like the result of an expansion. -/
  cutsText : Bool := false
  tilde : TildePlace := .start
  deriving DecidableEq, Repr

/-- What commands and words mean that stand inside others. -/
structure Inner where
  /-- Runs a command; the flag tells whether its failure is looked at. -/
  run : Command → (isTested : Bool) → Action Unit
  /-- Expands a word. -/
  expand : Manner → Word → Action (List Mark)

namespace Mark

/-- A text that is quoted. -/
def quoted (text : ByteText) : List Mark :=
  text.map fun c => .letter ⟨c, true⟩ false

/-- A text that is not quoted. -/
def plain (isCut : Bool) (text : ByteText) : List Mark :=
  text.map fun c => .letter ⟨c, false⟩ isCut

/-- The result of an expansion. -/
def result (isQuoted : Bool) (text : ByteText) : List Mark :=
  if isQuoted then quoted text else plain true text ++ [.seam]

/-- The letters among some marks. -/
def letters (marks : List Mark) : List Letter :=
  marks.filterMap fun
    | .letter found _ => some found
    | _ => none

end Mark

/-! ## Fields -/

/-- Fields that are being cut out of an expanded word. -/
structure Cutting where
  /-- The fields that are complete, the last first. -/
  complete : List (List Letter) := []
  /-- The letters of the field at hand, the last first, if there is one. -/
  current : Option (List Letter) := none
  /-- Whether separators have just been passed over, and whether one more that is not blank
  may be. -/
  passed : Option Bool := none
  /-- Whether an empty last argument is a field if no other expansion follows. -/
  isPending : Bool := false

namespace Cutting

/-- The field at hand is complete, also if there is nothing in it. -/
def cut (cutting : Cutting) (maySkip : Bool) : Cutting :=
  { complete := (cutting.current.getD []).reverse :: cutting.complete, passed := some maySkip }

/-- Passes over a separator that is blank. -/
def blank (cutting : Cutting) : Cutting :=
  if cutting.isPending then cutting.cut true
  else if cutting.passed.isSome || cutting.current.isNone then cutting
  else cutting.cut true

/-- Passes over a separator that is not blank. -/
def separator (cutting : Cutting) : Cutting :=
  if cutting.passed = some true then { cutting with passed := some false }
  else cutting.cut false

/-- Adds letters, or nothing but quotes, to the field at hand. -/
def add (cutting : Cutting) (letters : List Letter) : Cutting :=
  { complete := cutting.complete, current := some (letters ++ cutting.current.getD []) }

/-- Goes on with a mark. -/
def step (separators : ByteText) (cutting : Cutting) : Mark → Cutting
  | .letter letter isCut =>
    if isCut && separators.contains letter.char then
      if [' ', '\t', '\n'].contains letter.char then cutting.blank else cutting.separator
    else cutting.add [letter]
  | .quotes => cutting.add []
  | .gap => cutting.blank
  | .lastEmpty => { cutting with isPending := cutting.current.isNone }
  | .seam => { cutting with passed := none, isPending := false }

/-- All fields. -/
def fields (cutting : Cutting) : List (List Letter) :=
  (match cutting.current with
    | some letters => letters.reverse :: cutting.complete
    | none => if cutting.isPending then [] :: cutting.complete else cutting.complete).reverse

end Cutting

/-- The fields of an expanded word. -/
def fieldsOf (separators : ByteText) (marks : List Mark) : List (List Letter) :=
  (marks.foldl (Cutting.step separators) {}).fields

/-! ## Parameters -/

/-- What a parameter stands for. -/
inductive Value where
  | text (text : ByteText)
  | arguments (texts : List ByteText)
  deriving DecidableEq, Repr

namespace Value

/-- What a parameter stands for, if anything. -/
def ofParameter? (shell : Shell) (name : ByteText) : Option Value :=
  match name with
  | ['@'] | ['*'] => some (.arguments shell.arguments)
  | ['#'] => some (.text (toString shell.arguments.length).toList)
  | ['?'] => some (.text (toString shell.status).toList)
  | ['$'] => some (.text ownProcess)
  | ['!'] => shell.backgroundStatus.map fun _ => .text lastProcess
  | ['-'] => some (.text shell.optionLetters)
  | name =>
    if name.head?.any Char.isDigit then
      match digitsFrom 10 0 name with
      | (0, _) => some (.text shell.name)
      | (number + 1, _) => shell.arguments[number]?.map .text
    else ((shell.stored? name).bind Variable.value).map .text

/-- A value as one text. -/
def joined (shell : Shell) : Value → ByteText
  | text found => found
  | arguments texts => List.intercalate shell.joint texts

/-- Quoted arguments that stay apart. -/
def argumentMarks : List ByteText → List Mark
  | [] => []
  | [last] => if last.isEmpty then [.lastEmpty] else Mark.quoted last
  | first :: rest => .quotes :: Mark.quoted first ++ .gap :: argumentMarks rest

/-- A value as the result of an expansion. Quoted arguments stay apart only where the
parameter is `@`. -/
def marks (shell : Shell) (manner : Manner) (name : ByteText) (isQuoted : Bool) :
    Value → List Mark
  | text found => Mark.result isQuoted found
  | arguments texts =>
    if !manner.splits || (isQuoted && name = ['*']) then
      Mark.result isQuoted (joined shell (arguments texts))
    else if isQuoted then argumentMarks texts
    else List.intercalate [.gap] (texts.map (Mark.plain true)) ++ [.seam]

end Value

/-- Fails because a parameter is not set. -/
def failUnset {α : Type} (name : ByteText) (emptyCounts : Bool) : Action α :=
  Action.fail (name ++ ": parameter not set".toList ++
    if emptyCounts then " or null".toList else [])

/-! ## Words -/

/-- The home directory of the user with a name; without a name, that of the user whom the
variables describe. -/
def homeOf? (shell : Shell) (user : ByteText) : Option ByteText :=
  if user.isEmpty then shell.value? "HOME"
  else if user = "root".toList then some "/root".toList
  else none

/-- The home directory in the place of a tilde at the start of a text, and the text after
it. A tilde with the name of a user may also end at a colon. -/
def tildeAt? (shell : Shell) (endsAtColon isWhole : Bool) (text : ByteText) :
    Option (ByteText × ByteText) :=
  match text with
  | '~' :: rest =>
    let continues (c : Char) : Bool := c ≠ '/' && !(endsAtColon && c = ':')
    let user := rest.takeWhile continues
    let after := rest.drop user.length
    if after.isEmpty && !isWhole then none else (homeOf? shell user).map (·, after)
  | _ => none

/-- The marks of a text that is not quoted, with home directories after colons. -/
def textMarks (shell : Shell) (manner : Manner) (isWhole : Bool) : ByteText → List Mark
  | [] => []
  | c :: rest =>
    let others := textMarks shell manner isWhole rest
    let others :=
      if c = ':' && manner.tilde = .startAndColons then
        match tildeAt? shell true isWhole rest with
        | some (home, after) => Mark.quoted home ++ others.drop (rest.length - after.length)
        | none => others
      else others
    .letter ⟨c, false⟩ manner.cutsText :: others

/-- The marks of a text that is not quoted; `isFirst` and `isWhole` tell whether it starts
and ends its word. -/
def literalMarks (shell : Shell) (manner : Manner) (isFirst isWhole : Bool) (text : ByteText) :
    List Mark :=
  let start :=
    if isFirst && manner.tilde ≠ .nowhere then
      tildeAt? shell (manner.tilde = .startAndColons) isWhole text
    else none
  match start with
  | some (home, rest) => Mark.quoted home ++ textMarks shell manner isWhole rest
  | none => textMarks shell manner isWhole text

namespace Inner

/-- The letters that a word stands for. -/
def letters (inner : Inner) (word : Word) : Action (List Letter) :=
  return Mark.letters (← inner.expand {} word)

/-- The text that a word stands for where it cannot be several. -/
def text (inner : Inner) (word : Word) : Action ByteText :=
  return textOf (← inner.letters word)

/-- Expands a word that takes the place of a parameter. -/
def replacement (inner : Inner) (manner : Manner) (isQuoted : Bool) (word : Word) :
    Action (List Mark) := do
  let marks ← inner.expand { manner with cutsText := !isQuoted, tilde := .start } word
  return if isQuoted || marks.getLast? = some .lastEmpty then marks else marks ++ [.seam]

/-- Expands a parameter. -/
def parameter (inner : Inner) (manner : Manner) (name : ByteText) (isQuoted : Bool)
    (use : Use) : Action (List Mark) := do
  let shell ← get
  let value := Value.ofParameter? shell name
  let marks (shell : Shell) (value : Option Value) : List Mark :=
    (value.map (Value.marks shell manner name isQuoted)).getD []
  let requireSet : Action Unit :=
    if value.isNone && shell.hasOption "nounset" then failUnset name false else pure ()
  match use with
  | .value =>
    requireSet
    return marks shell value
  | .length =>
    requireSet
    let length := ((value.map (Value.joined shell)).getD []).length
    return Mark.result isQuoted (toString length).toList
  | .trimmed how pattern =>
    requireSet
    match value with
    | none => return []
    | some value =>
      let pattern := patternOf (← inner.letters pattern)
      return Mark.result isQuoted (trimmed how pattern (value.joined shell))
  | .replaced how emptyCounts word =>
    let isPresent :=
      match value with
      | some value => !(emptyCounts && (value.joined shell).isEmpty)
      | none => false
    match how, isPresent with
    | .covers, false => return []
    | .covers, true => inner.replacement manner isQuoted word
    | _, true => return marks shell value
    | .standsIn, false => inner.replacement manner isQuoted word
    | .becomesValue, false =>
      Action.assign name (← inner.text word)
      let shell ← get
      return marks shell (Value.ofParameter? shell name)
    | .complains, false =>
      if word.isEmpty then failUnset name emptyCounts
      else Action.fail (name ++ ": ".toList ++ (← inner.text word))
  | .meaningless => Action.fail "Bad substitution".toList

/-- A text without line ends at its end. -/
def withoutLineEnds (text : ByteText) : ByteText :=
  (text.reverse.dropWhile (· = '\n')).reverse

/-- What commands write to their output. -/
def output (inner : Inner) (commands : Command) : Action ByteText := do
  let channel := (← get).channels.length
  let status ← Action.apart (·.openStream 1 (.collected []))
    (inner.run (.enclosed 0 commands []) false)
  modify ({ · with outputStatus := status })
  return withoutLineEnds (((← get).collectedIn channel).filter (· ≠ '\x00'))

/-- Computes an expression. -/
def arithmetic (inner : Inner) (expression : Word) : Action ByteText := do
  let text := textOf (Mark.letters (← inner.expand { tilde := .nowhere } expression))
  let shell ← get
  let value (name : ByteText) : ByteText :=
    ((shell.stored? name).bind Variable.value).getD []
  match calculate value text with
  | .error fault => Action.fail (fault.message text)
  | .ok (result, assigned) =>
    assigned.forM fun (name, value) => Action.assign name value
    return (toString result).toList

/-- Expands a part of a word; `isFirst` and `isLast` tell whether it starts and ends the
word. -/
def piece (inner : Inner) (manner : Manner) (isFirst isLast : Bool) :
    Piece → Action (List Mark)
  | .literal text true => return .quotes :: Mark.quoted text
  | .literal text false => return literalMarks (← get) manner isFirst isLast text
  | .parameter name use isQuoted => inner.parameter manner name isQuoted use
  | .output commands isQuoted => return Mark.result isQuoted (← inner.output commands)
  | .arithmetic expression isQuoted =>
    return Mark.result isQuoted (← inner.arithmetic expression)

/-- Expands the parts of a word from some place on. -/
def piecesFrom (inner : Inner) (manner : Manner) : (isFirst : Bool) → Word →
    Action (List Mark)
  | _, [] => return []
  | isFirst, piece :: rest => do
    let first ← inner.piece manner isFirst rest.isEmpty piece
    return first ++ (← inner.piecesFrom manner false rest)

/-- The fields that a word stands for. -/
def fields (inner : Inner) (word : Word) : Action (List ByteText) := do
  let marks ← inner.expand { splits := true } word
  let shell ← get
  let fields := fieldsOf shell.separators marks
  return if shell.hasOption "noglob" then fields.map textOf
    else fields.flatMap (pathsOf shell.files shell.here)

/-- The value that a word gives to a variable. -/
def assignedValue (inner : Inner) (word : Word) : Action ByteText :=
  return textOf (Mark.letters (← inner.expand { tilde := .startAndColons } word))

end Inner

end BridgeSetup.Script
