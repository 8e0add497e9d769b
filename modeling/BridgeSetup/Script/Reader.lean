import BridgeSetup.Script.Token

/-!
# Reading words

A script is read from its start to its end by readers, which take characters from a
`Source` or fail. A backslash before a line end joins two lines everywhere except between
single quotes and in comments, so that `peek?` never sees one. `piecesFrom` reads the parts
of a word in a `Context`; what stands for commands inside a word is left to the reader that
is given for them.
-/

namespace BridgeSetup.Script

/-- A document that starts after the line on which it was announced. -/
structure Announcement where
  number : Nat
  /-- The line that ends the document. -/
  mark : ByteText
  /-- Whether lines lose the tabs at their start. -/
  stripsTabs : Bool
  /-- Whether the document is taken as it is written. -/
  isVerbatim : Bool

/-- The part of a script that is still to be read, and what is remembered of the other. -/
structure Source where
  rest : ByteText
  line : Nat := 1
  /-- A token that was read and not used. -/
  ahead : Option Token := none
  announced : List Announcement := []
  documents : List (Nat × Word) := []
  nextDocument : Nat := 0

/-- A computation that reads from a source. -/
abbrev Reader := StateT Source (Except SyntaxError)

namespace Reader

/-- Stops reading at the current line. -/
def fail {α : Type} (violation : Violation) : Reader α := fun source =>
  .error ⟨source.line, violation⟩

/-- A text after the joined line ends at its start, and the line on which it is. -/
def dropJoints : ByteText → (line : Nat) → ByteText × Nat
  | '\\' :: '\n' :: rest, line => dropJoints rest (line + 1)
  | text, line => (text, line)

/-- The next character, which stays where it is. -/
def peek? : Reader (Option Char) :=
  modifyGet fun source =>
    let (rest, line) := dropJoints source.rest source.line
    (rest.head?, { source with rest, line })

/-- Passes over one character. -/
def skip : Reader Unit :=
  modify fun source =>
    match source.rest with
    | [] => source
    | c :: rest => { source with rest, line := if c = '\n' then source.line + 1 else source.line }

/-- Takes the next character. -/
def next? : Reader (Option Char) := do
  let c ← peek?
  skip
  return c

/-- Takes the next character as it is written. -/
def nextAsWritten? : Reader (Option Char) := do
  let c := (← get).rest.head?
  skip
  return c

/-- Passes over the next character if it is the given one, and tells whether it was. -/
def accept (c : Char) : Reader Bool := do
  if (← peek?) = some c then
    skip
    return true
  else return false

/-- Splits a text before the first character that has not the given property, leaving out
joined line ends, and tells the line of the second part. -/
def spanJoined (keep : Char → Bool) : ByteText → (line : Nat) → ByteText × ByteText × Nat
  | '\\' :: '\n' :: rest, line => spanJoined keep rest (line + 1)
  | c :: rest, line =>
    if keep c then
      let (taken, rest, line) := spanJoined keep rest line
      (c :: taken, rest, line)
    else ([], c :: rest, line)
  | [], line => ([], [], line)

/-- Takes characters as long as they have a property. -/
def takeWhile (keep : Char → Bool) : Reader ByteText :=
  modifyGet fun source =>
    let (taken, rest, line) := spanJoined keep source.rest source.line
    (taken, { source with rest, line })

/-- Passes over characters up to a line end as they are written. -/
def skipLine : Reader Unit :=
  modify fun source => { source with rest := source.rest.dropWhile (· ≠ '\n') }

/-- Takes the text up to a single quote, which is passed over, as it is written. -/
def singleQuoted : Reader ByteText := do
  let source ← get
  let text := source.rest.takeWhile (· ≠ '\'')
  let line := source.line + text.count '\n'
  match source.rest.dropWhile (· ≠ '\'') with
  | [] =>
    set { source with line }
    fail .openQuotes
  | _ :: rest =>
    set { source with rest, line }
    return text

/-- Takes the commands up to a backquote, without the backslashes that protect characters
in them; `isQuoted` tells whether double quotes are protected, too. -/
def backquotedFrom (isQuoted : Bool) : ByteText → (line : Nat) →
    Option (ByteText × ByteText × Nat)
  | [], _ => none
  | '\x60' :: rest, line => some ([], rest, line)
  | '\\' :: '\n' :: rest, line => backquotedFrom isQuoted rest (line + 1)
  | '\\' :: c :: rest, line => do
    let (text, rest, line) ← backquotedFrom isQuoted rest line
    let isProtected := ['\\', '\x60', '$'].contains c || (isQuoted && c = '"')
    return (if isProtected then c :: text else '\\' :: c :: text, rest, line)
  | c :: rest, line => do
    let (text, rest, line) ← backquotedFrom isQuoted rest (if c = '\n' then line + 1 else line)
    return (c :: text, rest, line)

/-- Takes the commands up to a backquote. -/
def backquoted (isQuoted : Bool) : Reader ByteText := do
  let source ← get
  match backquotedFrom isQuoted source.rest source.line with
  | none =>
    set { source with line := source.line + source.rest.count '\n' }
    fail .openSubstitution
  | some (text, rest, line) =>
    set { source with rest, line }
    return text

/-- Reads something inside a word: documents that were announced before wait, and no token
is left over. -/
def nested {α : Type} (reader : Reader α) : Reader α := do
  let announced := (← get).announced
  modify ({ · with announced := [], ahead := none })
  let result ← reader
  modify ({ · with announced, ahead := none })
  return result

/-- Reads another text in the place of the rest of the source. -/
def elsewhere {α : Type} (text : ByteText) (line : Nat) (reader : Reader α) : Reader α := do
  let source ← get
  set { source with rest := text, line }
  let result ← reader
  modify ({ · with rest := source.rest, line := source.line })
  return result

end Reader

/-! ## Contexts -/

/-- Where in a word a reader stands. -/
inductive Context where
  /-- Outside of quotes. -/
  | bare
  /-- Between double quotes. -/
  | double
  /-- In the word of a parameter outside of quotes. -/
  | brace
  /-- In the word of a parameter between double quotes; `inner` tells whether another pair of
  quotes is open. -/
  | quotedBrace (inner : Bool)
  /-- In an arithmetic expression with a number of open parentheses. -/
  | arithmetic (depth : Nat)
  /-- In a document. -/
  | document
  deriving DecidableEq, Repr

namespace Context

/-- Whether what stands in a context counts as quoted. -/
def isQuoted : Context → Bool
  | bare | brace => false
  | _ => true

/-- The characters that end a word which is not quoted. -/
def separators : List Char :=
  [' ', '\t', '\n', ';', '&', '|', '<', '>', '(', ')']

/-- Whether a backslash takes away the meaning of the next character and disappears. -/
def protects (context : Context) (next : Char) : Bool :=
  match context with
  | bare | brace => true
  | double | arithmetic _ => ['\\', '\x60', '$', '"'].contains next
  | quotedBrace _ => ['\\', '\x60', '$', '"', '\x7d'].contains next
  | document => ['\\', '\x60', '$'].contains next

/-- The context of a word that takes the place of a parameter. -/
def ofReplacement (context : Context) : Context :=
  if context.isQuoted then quotedBrace false else brace

/-- What is wrong if a text ends in a context. -/
def violation? : Context → Option Violation
  | bare | document => none
  | brace => some .openBrace
  | double | quotedBrace _ => some .openQuotes
  | arithmetic _ => some .openArithmetic

end Context

/-! ## Words -/

/-- A word with some text at its front. -/
def withLiteral (text : ByteText) (isQuoted : Bool) : Word → Word
  | .literal other quoted :: rest =>
    if quoted = isQuoted then .literal (text ++ other) quoted :: rest
    else .literal text isQuoted :: .literal other quoted :: rest
  | word => .literal text isQuoted :: word

/-- The parts between a pair of double quotes as parts of a word. All arguments of a script
do not become a word if there are none; anything else does. -/
def quotedPieces : Word → Word
  | [.parameter ['@'] .value true] => [.parameter ['@'] .value true]
  | pieces => .literal [] true :: pieces ++ [.literal [] true]

/-- Whether a character is a parameter of its own. -/
def isSpecialParameter (c : Char) : Bool :=
  c.isDigit || ['#', '?', '$', '!', '-', '*', '@'].contains c

/-- What a character after a parameter asks a word to do. -/
def replacement? : Char → Option Replacement
  | '-' => some .standsIn
  | '=' => some .becomesValue
  | '?' => some .complains
  | '+' => some .covers
  | _ => none

/-- The name of a parameter between braces, and whether its length is asked for. There is no
name if the braces hold nothing that can be one. -/
def parameterName : Reader (Option ByteText × Bool) := do
  match ← Reader.peek? with
  | none => return (none, false)
  | some c =>
    if startsName c then return (some (← Reader.takeWhile continuesName), false)
    else if c.isDigit then return (some (← Reader.takeWhile Char.isDigit), false)
    else if c = '\x7d' then return (none, false)
    else
      Reader.skip
      if c ≠ '#' then return (if isSpecialParameter c then some [c] else none, false)
      else
        match ← Reader.peek? with
        | none => return (some [c], false)
        | some first =>
          if startsName first then return (some (← Reader.takeWhile continuesName), true)
          else if first.isDigit then return (some (← Reader.takeWhile Char.isDigit), true)
          else if first = '\x7d' then return (some [c], false)
          else
            let before ← get
            Reader.skip
            if (← Reader.peek?) = some '\x7d' then
              return (if isSpecialParameter first then some [first] else none, true)
            else
              set before
              return (some [c], false)

/-- Reads the last part of a parameter between braces, where nothing is known about it. -/
def meaninglessUse (pieces : Context → Reader Word) (context : Context) : Reader Use := do
  let _ ← pieces context.ofReplacement
  return .meaningless

/-- Reads what is made of a parameter between braces, up to the closing brace. -/
def useFrom (pieces : Context → Reader Word) (context : Context) : Reader Use := do
  let open? := context.ofReplacement.violation?
  match ← Reader.next? with
  | none => Reader.fail (open?.getD .openBrace)
  | some '\x7d' => return .value
  | some ':' =>
    match ← Reader.next? with
    | none => Reader.fail (open?.getD .openBrace)
    | some c =>
      match replacement? c with
      | some how => return .replaced how true (← pieces context.ofReplacement)
      | none => meaninglessUse pieces context
  | some c =>
    match replacement? c with
    | some how => return .replaced how false (← pieces context.ofReplacement)
    | none =>
      if c = '%' || c = '#' then
        let longest ← Reader.accept c
        return .trimmed ⟨c = '%', longest⟩ (← pieces .brace)
      else meaninglessUse pieces context

/-- Reads a parameter after its opening brace. -/
def bracedFrom (pieces : Context → Reader Word) (context : Context) : Reader Piece := do
  match ← parameterName with
  | (none, _) => return .parameter [] (← meaninglessUse pieces context) context.isQuoted
  | (some name, true) =>
    if ← Reader.accept '\x7d' then return .parameter name .length context.isQuoted
    else return .parameter name (← meaninglessUse pieces context) context.isQuoted
  | (some name, false) => return .parameter name (← useFrom pieces context) context.isQuoted

/-- Reads commands up to a closing parenthesis. -/
def enclosedCommands (commands : Reader (Option Command)) : Reader (Option Command) :=
  Reader.nested do
    let found ← commands
    match (← get).ahead with
    | some (.operator ")") => return found
    | some token => Reader.fail (.unexpected token.name (some "\")\""))
    | none => Reader.fail .tooDeep

/-- The output of commands as a part of a word. -/
def outputOf (commands : Option Command) (isQuoted : Bool) : Word :=
  match commands with
  | some commands => [.output commands isQuoted]
  | none => [.literal [] false]

/-- Reads what follows a dollar sign. -/
def dollarFrom (commands : Reader (Option Command)) (pieces : Context → Reader Word)
    (context : Context) : Reader Word := do
  match ← Reader.peek? with
  | some '(' =>
    Reader.skip
    if ← Reader.accept '(' then
      return [.arithmetic (← pieces (.arithmetic 0)) context.isQuoted]
    else return outputOf (← enclosedCommands commands) context.isQuoted
  | some '\x7b' =>
    Reader.skip
    return [← bracedFrom pieces context]
  | some c =>
    if startsName c then
      return [.parameter (← Reader.takeWhile continuesName) .value context.isQuoted]
    else if isSpecialParameter c then
      Reader.skip
      return [.parameter [c] .value context.isQuoted]
    else return [.literal ['$'] context.isQuoted]
  | none => return [.literal ['$'] context.isQuoted]

/-- Reads the commands up to a backquote. -/
def backquotedCommands (commands : Reader (Option Command)) (context : Context) :
    Reader Word := do
  let text ← Reader.backquoted context.isQuoted
  return outputOf (← Reader.elsewhere text 1 (Reader.nested commands)) context.isQuoted

/-- Reads what a backslash and the next character stand for. -/
def protectedFrom (context : Context) : Reader Word := do
  match ← Reader.nextAsWritten? with
  | none => return [.literal ['\\'] true]
  | some c => return [.literal (if context.protects c then [c] else ['\\', c]) true]

/-- Reads the parts of a word up to the end that belongs to the context; `fuel` bounds its
length. -/
def piecesFrom (commands : Reader (Option Command)) : (fuel : Nat) → Context → Reader Word
  | 0, _ => Reader.fail .tooDeep
  | fuel + 1, context => do
    let go := piecesFrom commands fuel
    match ← Reader.peek? with
    | none =>
      match context.violation? with
      | none => return []
      | some violation => Reader.fail violation
    | some c =>
      if context = .bare && Context.separators.contains c then return []
      else
        Reader.skip
        match c, context with
        | '\\', _ =>
          let pieces ← protectedFrom context
          return pieces ++ (← go context)
        | '$', _ =>
          let pieces ← dollarFrom commands go context
          return pieces ++ (← go context)
        | '\x60', _ =>
          let pieces ← backquotedCommands commands context
          return pieces ++ (← go context)
        | '"', .double => return []
        | '"', .quotedBrace inner => go (.quotedBrace !inner)
        | '\x7d', .brace | '\x7d', .quotedBrace false => return []
        | '(', .arithmetic depth => return withLiteral [c] true (← go (.arithmetic (depth + 1)))
        | ')', .arithmetic 0 =>
          if ← Reader.accept ')' then return []
          else return withLiteral [c] true (← go context)
        | ')', .arithmetic (depth + 1) =>
          return withLiteral [c] true (← go (.arithmetic depth))
        | '\'', .bare | '\'', .brace =>
          let text ← Reader.singleQuoted
          return .literal text true :: (← go context)
        | '"', .bare | '"', .brace =>
          let inner ← go .double
          return quotedPieces inner ++ (← go context)
        | _, _ => return withLiteral [c] context.isQuoted (← go context)

/-! ## Documents -/

/-- A line that starts a text, with its line end, and what follows. -/
def cutLine (text : ByteText) : ByteText × ByteText :=
  match text.dropWhile (· ≠ '\n') with
  | [] => (text, [])
  | _ :: rest => (text.takeWhile (· ≠ '\n') ++ ['\n'], rest)

/-- Whether a line ends with a backslash that joins it to the next one. -/
def isJoined (line : ByteText) : Bool :=
  match line.reverse with
  | '\n' :: before => (before.takeWhile (· = '\\')).length % 2 = 1
  | _ => false

/-- The lines of a document up to its mark, and the text after it; `fuel` bounds their
number, and `joined` tells whether the line belongs to the one before. -/
def documentFrom (announcement : Announcement) : (fuel : Nat) → (joined : Bool) → ByteText →
    ByteText × ByteText
  | 0, _, text => ([], text)
  | _ + 1, _, [] => ([], [])
  | fuel + 1, joined, text =>
    let (line, rest) := cutLine text
    let line :=
      if announcement.stripsTabs && !joined then line.dropWhile (· = '\t') else line
    if !joined && (line = announcement.mark || line = announcement.mark ++ ['\n']) then ([], rest)
    else
      let joined := !announcement.isVerbatim && isJoined line
      let (others, rest) := documentFrom announcement fuel joined rest
      (line ++ others, rest)

/-- What is wrong with a document, of which more might come up to the given line. -/
def SyntaxError.inDocument (line : Nat) (error : SyntaxError) : SyntaxError :=
  match error.violation with
  | .openQuotes => ⟨line, .openBrace⟩
  | .openBrace | .openArithmetic | .openSubstitution => { error with line }
  | .unexpected "end of file" _ => { error with line }
  | _ => error

/-- Reads a document that was announced. -/
def readDocument (commands : Reader (Option Command)) (fuel : Nat)
    (announcement : Announcement) : Reader Unit := do
  let source ← get
  let (text, rest) := documentFrom announcement (source.rest.length + 1) false source.rest
  let word ←
    if announcement.isVerbatim then pure [.literal text true]
    else
      let lastLine := source.line + source.rest.count '\n'
      tryCatch (Reader.elsewhere text source.line (piecesFrom commands fuel .document))
        fun error => throw (error.inDocument lastLine)
  let taken := source.rest.length - rest.length
  let line := source.line + (source.rest.take taken).count '\n'
  modify fun after =>
    { after with rest, line, documents := (announcement.number, word) :: after.documents }

/-- Reads all documents that were announced. -/
def readDocuments (commands : Reader (Option Command)) (fuel : Nat) : Reader Unit := do
  let announced := (← get).announced
  modify ({ · with announced := [] })
  announced.forM (readDocument commands fuel)

end BridgeSetup.Script
