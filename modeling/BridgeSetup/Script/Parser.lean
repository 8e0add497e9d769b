import BridgeSetup.Script.Reader

/-!
# Reading commands

The grammar of scripts. A script is read one complete line at a time, so that a line is run
before anything is known about the next one: `Source.nextLine` reads the commands of a line,
which may go on over several lines of text if a word, a compound command or a document does.
-/

namespace BridgeSetup.Script

/-! ## Tokens -/

/-- The operators that are no redirections, those that start with others first. -/
def operators : List String :=
  ["&&", "&", "||", "|", ";;", ";", "(", ")"]

/-- Passes over a text if it comes next. -/
def acceptText : ByteText → Reader Bool
  | [] => return true
  | c :: rest => do
    let before ← get
    if ← Reader.accept c then
      if ← acceptText rest then return true
      else
        set before
        return false
    else return false

/-- Takes the first of several operators that comes next. -/
def acceptFirst : List String → Reader (Option Token)
  | [] => return none
  | text :: others => do
    if ← acceptText text.toList then return some (.operator text) else acceptFirst others

/-- Reads what a redirection does after its first character. -/
def directionAfter (c : Char) : Reader Direction := do
  if c = '>' then
    if ← Reader.accept '>' then return .file .append
    else if ← Reader.accept '|' then return .file .overwrite
    else if ← Reader.accept '&' then return .duplicate
    else return .file .write
  else if ← Reader.accept '<' then return .document (← Reader.accept '-')
  else if ← Reader.accept '&' then return .duplicate
  else if ← Reader.accept '>' then return .file .readWrite
  else return .file .read

/-- The stream that a redirection with the given first character changes, if it may follow a
word. -/
def streamBefore? (c : Char) : Word → Option Nat
  | [] => some (if c = '<' then 0 else 1)
  | [.literal [digit] false] =>
    if digit.isDigit then some (digit.toNat - '0'.toNat) else none
  | _ => none

/-- Reads a word, or a redirection with the digit before it. -/
def wordToken (commands : Reader (Option Command)) (fuel : Nat) : Reader Token := do
  let word ← piecesFrom commands fuel .bare
  match ← Reader.peek? with
  | some c =>
    if c = '<' || c = '>' then
      match streamBefore? c word with
      | some stream =>
        Reader.skip
        return .redirection stream (← directionAfter c)
      | none => return .word word
    else return .word word
  | none => return .word word

/-- Reads a token; `fuel` bounds the length of the text before it. -/
def freshToken (commands : Reader (Option Command)) : (fuel : Nat) → Reader Token
  | 0 => Reader.fail .tooDeep
  | fuel + 1 => do
    match ← Reader.peek? with
    | none =>
      readDocuments commands fuel
      return .endOfText
    | some c =>
      if c = ' ' || c = '\t' then
        Reader.skip
        freshToken commands fuel
      else if c = '#' then
        Reader.skipLine
        freshToken commands fuel
      else if c = '\n' then
        Reader.skip
        readDocuments commands fuel
        return .newline
      else
        match ← acceptFirst operators with
        | some token => return token
        | none => wordToken commands fuel

/-- Reads a token that is not a line end. -/
def tokenPastLines (commands : Reader (Option Command)) : (fuel : Nat) → Token → Reader Token
  | 0, _ => Reader.fail .tooDeep
  | fuel + 1, .newline => do
    let token ← freshToken commands fuel
    tokenPastLines commands fuel token
  | _ + 1, token => return token

/-- What counts at the place of a token: whether line ends are passed over, and whether
reserved words are recognized. -/
structure Expectation where
  skipsLines : Bool := false
  reserves : Bool := false

/-- At the start of a command. -/
def Expectation.command : Expectation := { reserves := true }

/-- At the start of a command that may stand on a later line. -/
def Expectation.laterCommand : Expectation :=
  { skipsLines := true, reserves := true }

/-- Takes the next token. -/
def takeToken (commands : Reader (Option Command)) (fuel : Nat)
    (expectation : Expectation := {}) : Reader Token := do
  let before ← get
  modify ({ · with ahead := none })
  let token ←
    match before.ahead with
    | some token => pure token
    | none => freshToken commands fuel
  let token ← if expectation.skipsLines then tokenPastLines commands fuel token else pure token
  return if expectation.reserves then token.asReserved else token

/-- Leaves a token to the next reader. -/
def putBack (token : Token) : Reader Unit :=
  modify ({ · with ahead := some token })

/-- Stops at a token where another one should be. -/
def unexpected {α : Type} (token : Token) (expected : Option String := none) : Reader α :=
  Reader.fail (.unexpected token.name expected)

/-- A reserved word as messages name it. -/
def shownWord (text : String) : String :=
  (Token.reserved text).name

/-! ## Redirections -/

/-- The text of a word without its quotes. -/
def plainText (word : Word) : ByteText :=
  word.flatMap fun
    | .literal text _ => text
    | .parameter name _ _ => '$' :: name
    | _ => []

/-- Whether any part of a word is quoted. -/
def hasQuotes (word : Word) : Bool :=
  word.any fun
    | .literal _ isQuoted => isQuoted
    | _ => false

/-- Reads the word of a redirection. -/
def redirectionFrom (commands : Reader (Option Command)) (fuel : Nat) (stream : Nat)
    (direction : Direction) : Reader Redirection := do
  match ← takeToken commands fuel with
  | .word word =>
    match direction with
    | .file mode => return .file stream mode word
    | .duplicate => return .duplicate stream word
    | .document stripsTabs =>
      let number := (← get).nextDocument
      let announcement := ⟨number, plainText word, stripsTabs, hasQuotes word⟩
      modify fun source =>
        { source with
          announced := source.announced ++ [announcement], nextDocument := number + 1 }
      return .document stream number
  | token => unexpected token

/-- Reads redirections as long as there are any; `fuel` bounds their number. -/
def redirectionsFrom (commands : Reader (Option Command)) : (fuel : Nat) →
    (expectation : Expectation) → Reader (List Redirection)
  | 0, _ => Reader.fail .tooDeep
  | fuel + 1, expectation => do
    match ← takeToken commands fuel expectation with
    | .redirection stream direction =>
      let first ← redirectionFrom commands fuel stream direction
      return first :: (← redirectionsFrom commands fuel {})
    | token =>
      putBack token
      return []

/-! ## Simple commands -/

/-- The parts of a simple command. -/
structure SimpleParts where
  assignments : List (ByteText × Word) := []
  words : List Word := []
  redirections : List Redirection := []

/-- The commands for which a failure ends a script that is not a function's. No function can
have the name of one. -/
def specialCommands : List String :=
  [".", ":", "break", "continue", "eval", "exec", "exit", "export", "local", "readonly",
   "return", "set", "shift", "trap", "unset"]

/-- Whether a function may have a name. -/
def isFunctionName (name : ByteText) : Bool :=
  isName name && !specialCommands.contains (String.ofList name)

/-- Reads the parts of a simple command as long as there are any; `fuel` bounds their
number. The parts so far are given in reverse order, and so are those that are read. -/
def partsFrom (commands : Reader (Option Command)) : (fuel : Nat) → SimpleParts →
    Reader SimpleParts
  | 0, _ => Reader.fail .tooDeep
  | fuel + 1, parts => do
    match ← takeToken commands fuel with
    | .word word =>
      match if parts.words.isEmpty then word.assignment? else none with
      | some assignment =>
        partsFrom commands fuel
          { parts with assignments := assignment :: parts.assignments }
      | none => partsFrom commands fuel { parts with words := word :: parts.words }
    | .redirection stream direction =>
      let redirection ← redirectionFrom commands fuel stream direction
      partsFrom commands fuel
        { parts with redirections := redirection :: parts.redirections }
    | token =>
      putBack token
      return parts

/-- The name of the function that is being defined if a parenthesis follows the parts of a
simple command. -/
def definedName? (parts : SimpleParts) : Option Word :=
  match parts with
  | ⟨[], [word], []⟩ => some word
  | _ => none

/-! ## Compound commands -/

/-- How far a list of commands goes. -/
inductive ListKind where
  /-- To the end of a line. -/
  | line
  /-- To a token that ends it, over several lines. There is at least one command. -/
  | body
  /-- To a token that ends it, over several lines. There may be no command. -/
  | clause
  deriving DecidableEq, Repr

/-- Two lists of commands one after the other. -/
def joined : Option Command → Option Command → Option Command
  | none, second => second
  | some first, none => some first
  | some first, some second => some (.sequence first second)

/-- A list as the body of a compound command. -/
def bodyOf : Option Command → Command
  | some command => command
  | none => .simple 0 [] [] []

/-- A command with redirections. -/
def Command.redirectedTo (line : Nat) (redirections : List Redirection) (command : Command) :
    Command :=
  if redirections.isEmpty then command else .redirected line command redirections

mutual

/-- Reads a list of commands. The token after it is put back unless it is the end of a
line. -/
def listFrom : (fuel : Nat) → (kind : ListKind) → (isFirst : Bool) → Reader (Option Command)
  | 0, _, _ => Reader.fail .tooDeep
  | fuel + 1, kind, isFirst => do
    let commands := listFrom fuel .clause true
    let expectation := if kind = .line then Expectation.command else .laterCommand
    let token ← takeToken commands fuel expectation
    match token with
    | .newline => return none
    | .endOfText =>
      putBack token
      return none
    | _ =>
      putBack token
      if token.endsList && (kind = .clause || (kind = .body && !isFirst)) then return none
      else
        let first ← joinedFrom fuel
        let token ← takeToken commands fuel
        match token with
        | .operator "&" =>
          return joined (some (.background first)) (← listFrom fuel kind false)
        | .operator ";" => return joined (some first) (← listFrom fuel kind false)
        | .newline | .endOfText =>
          putBack token
          return joined (some first) (← listFrom fuel kind false)
        | _ =>
          if kind = .line then unexpected token
          else
            putBack token
            return some first

/-- Reads pipelines that are joined by `&&` and `||`. -/
def joinedFrom : (fuel : Nat) → Reader Command
  | 0 => Reader.fail .tooDeep
  | fuel + 1 => do
    let first ← pipelineFrom fuel .command
    joinedTo fuel first

/-- Reads the pipelines that are joined to the given command. -/
def joinedTo : (fuel : Nat) → Command → Reader Command
  | 0, _ => Reader.fail .tooDeep
  | fuel + 1, first => do
    let token ← takeToken (listFrom fuel .clause true) fuel
    match token with
    | .operator "&&" => joinedTo fuel (.both first (← pipelineFrom fuel .laterCommand))
    | .operator "||" => joinedTo fuel (.either first (← pipelineFrom fuel .laterCommand))
    | _ =>
      putBack token
      return first

/-- Reads a pipeline. -/
def pipelineFrom : (fuel : Nat) → Expectation → Reader Command
  | 0, _ => Reader.fail .tooDeep
  | fuel + 1, expectation => do
    let token ← takeToken (listFrom fuel .clause true) fuel expectation
    if token.isReserved "!" then return .negated (← stagesFrom fuel .command)
    else
      putBack token
      stagesFrom fuel {}

/-- Reads the stages of a pipeline. -/
def stagesFrom : (fuel : Nat) → Expectation → Reader Command
  | 0, _ => Reader.fail .tooDeep
  | fuel + 1, expectation => do
    let first ← commandFrom fuel expectation
    match ← laterStages fuel with
    | [] => return first
    | others => return .pipeline (first :: others)

/-- Reads the stages of a pipeline after the first one. -/
def laterStages : (fuel : Nat) → Reader (List Command)
  | 0 => Reader.fail .tooDeep
  | fuel + 1 => do
    let token ← takeToken (listFrom fuel .clause true) fuel
    if token.isOperator "|" then
      let next ← commandFrom fuel .laterCommand
      return next :: (← laterStages fuel)
    else
      putBack token
      return []

/-- Reads a command. -/
def commandFrom : (fuel : Nat) → Expectation → Reader Command
  | 0, _ => Reader.fail .tooDeep
  | fuel + 1, expectation => do
    let commands := listFrom fuel .clause true
    let token ← takeToken commands fuel expectation
    let line := (← get).line
    match token with
    | .word _ | .redirection .. =>
      putBack token
      simpleFrom fuel line
    | .operator "(" =>
      let body ← listFrom fuel .body true
      let token ← takeToken commands fuel
      if token.isOperator ")" then
        return .enclosed line (bodyOf body) (← redirectionsFrom commands fuel .command)
      else unexpected token (some (Token.operator ")").name)
    | _ =>
      let command ←
        match token with
        | .reserved "if" => conditionalFrom fuel
        | .reserved "while" => loopFrom fuel true
        | .reserved "until" => loopFrom fuel false
        | .reserved "for" => forEachFrom fuel line
        | .reserved "case" => selectionFrom fuel line
        | .reserved "\x7b" =>
          let body ← listFrom fuel .body true
          endWith fuel "\x7d"
          pure (bodyOf body)
        | token => unexpected token
      return command.redirectedTo line (← redirectionsFrom commands fuel .command)

/-- Takes a reserved word that has to come next. -/
def endWith : (fuel : Nat) → String → Reader Unit
  | 0, _ => Reader.fail .tooDeep
  | fuel + 1, text => do
    let token ← takeToken (listFrom fuel .clause true) fuel
    if token.isReserved text then return () else unexpected token (some (shownWord text))

/-- Reads a simple command or the definition of a function. -/
def simpleFrom : (fuel : Nat) → (line : Nat) → Reader Command
  | 0, _ => Reader.fail .tooDeep
  | fuel + 1, line => do
    let commands := listFrom fuel .clause true
    let parts ← partsFrom commands fuel {}
    let token ← takeToken commands fuel
    match if token.isOperator "(" then definedName? parts else none with
    | some name =>
      let token ← takeToken commands fuel
      if token.isOperator ")" then
        match (Word.plain? name).filter isFunctionName with
        | some name => return .definition name (← commandFrom fuel .laterCommand)
        | none => Reader.fail .badFunctionName
      else unexpected token (some (Token.operator ")").name)
    | none =>
      putBack token
      return .simple line parts.assignments.reverse parts.words.reverse
        parts.redirections.reverse

/-- Reads a conditional after the word that starts its test. -/
def conditionalFrom : (fuel : Nat) → Reader Command
  | 0 => Reader.fail .tooDeep
  | fuel + 1 => do
    let test ← listFrom fuel .body true
    endWith fuel "then"
    let yes ← listFrom fuel .body true
    let token ← takeToken (listFrom fuel .clause true) fuel
    match token with
    | .reserved "elif" =>
      return .conditional (bodyOf test) (bodyOf yes) (some (← conditionalFrom fuel))
    | .reserved "else" =>
      let no ← listFrom fuel .body true
      endWith fuel "fi"
      return .conditional (bodyOf test) (bodyOf yes) no
    | .reserved "fi" => return .conditional (bodyOf test) (bodyOf yes) none
    | token => unexpected token (some (shownWord "fi"))

/-- Reads a loop after its first word. -/
def loopFrom : (fuel : Nat) → (whileHolds : Bool) → Reader Command
  | 0, _ => Reader.fail .tooDeep
  | fuel + 1, whileHolds => do
    let test ← listFrom fuel .body true
    endWith fuel "do"
    let body ← listFrom fuel .body true
    endWith fuel "done"
    return .loop whileHolds (bodyOf test) (bodyOf body)

/-- Reads a loop over words after its first word. -/
def forEachFrom : (fuel : Nat) → (line : Nat) → Reader Command
  | 0, _ => Reader.fail .tooDeep
  | fuel + 1, line => do
    let commands := listFrom fuel .clause true
    match ← takeToken commands fuel with
    | .word word =>
      match (Word.plain? word).filter isName with
      | none => Reader.fail .badLoopVariable
      | some name =>
        let token ← takeToken commands fuel .laterCommand
        let words ←
          if token.isReserved "in" then wordsFrom fuel
          else
            if !token.isOperator ";" then putBack token
            pure [[Piece.parameter ['@'] .value true]]
        let token ← takeToken commands fuel .laterCommand
        if token.isReserved "do" then
          let body ← listFrom fuel .body true
          endWith fuel "done"
          return .forEach line name words (bodyOf body)
        else unexpected token (some (shownWord "do"))
    | _ => Reader.fail .badLoopVariable

/-- Reads words up to the end of a line or a semicolon. -/
def wordsFrom : (fuel : Nat) → Reader (List Word)
  | 0 => Reader.fail .tooDeep
  | fuel + 1 => do
    match ← takeToken (listFrom fuel .clause true) fuel with
    | .word word => return word :: (← wordsFrom fuel)
    | .newline | .operator ";" => return []
    | token => unexpected token

/-- Reads a selection after its first word. -/
def selectionFrom : (fuel : Nat) → (line : Nat) → Reader Command
  | 0, _ => Reader.fail .tooDeep
  | fuel + 1, line => do
    let commands := listFrom fuel .clause true
    match ← takeToken commands fuel with
    | .word subject =>
      let token ← takeToken commands fuel .laterCommand
      if token.isReserved "in" then return .selection line subject (← clausesFrom fuel)
      else unexpected token (some (shownWord "in"))
    | token => unexpected token (some "word")

/-- Reads the clauses of a selection and the word that ends it. -/
def clausesFrom : (fuel : Nat) → Reader (List (List Word × Option Command))
  | 0 => Reader.fail .tooDeep
  | fuel + 1 => do
    let commands := listFrom fuel .clause true
    let token ← takeToken commands fuel .laterCommand
    if token.isReserved "esac" then return []
    else
      let token ← if token.isOperator "(" then takeToken commands fuel else pure token
      let patterns ← patternsFrom fuel token
      let body ← listFrom fuel .clause true
      let token ← takeToken commands fuel .laterCommand
      if token.isReserved "esac" then return [(patterns, body)]
      else if token.isOperator ";;" then return (patterns, body) :: (← clausesFrom fuel)
      else unexpected token (some (Token.operator ";;").name)

/-- Reads the patterns of a clause, of which the first token is given. -/
def patternsFrom : (fuel : Nat) → Token → Reader (List Word)
  | 0, _ => Reader.fail .tooDeep
  | fuel + 1, token => do
    let commands := listFrom fuel .clause true
    let pattern : Word :=
      match token with
      | .word word => word
      | .reserved text => [.literal text.toList false]
      | _ => []
    let token ← takeToken commands fuel
    if token.isOperator "|" then
      return pattern :: (← patternsFrom fuel (← takeToken commands fuel))
    else if token.isOperator ")" then return [pattern]
    else unexpected token (some (Token.operator ")").name)

end

/-! ## Scripts -/

/-- What a line of a script holds. -/
inductive Line where
  /-- There are no more lines. -/
  | none
  | empty
  | commands (commands : Command)

/-- A number that bounds the steps of all readers of a source. -/
def Source.steps (source : Source) : Nat :=
  16 * (source.rest.length + 4)

/-- Reads the commands of the next line. -/
def readLine (fuel : Nat) : Reader Line := do
  modify ({ · with ahead := Option.none, announced := [] })
  let token ← takeToken (listFrom fuel .clause true) fuel .command
  match token with
  | .endOfText => return .none
  | _ =>
    putBack token
    match ← listFrom fuel .line true with
    | some commands => return .commands commands
    | none => return .empty

/-- The commands of the next line, and the source after it. -/
def Source.nextLine (source : Source) : Except SyntaxError (Line × Source) :=
  readLine source.steps source

end BridgeSetup.Script
