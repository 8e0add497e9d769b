import BridgeSetup.Script.Syntax

/-!
# Tokens

The smallest parts of a script that its grammar speaks of, and what can be wrong with the
text of a script.
-/

namespace BridgeSetup.Script

/-- The operators that redirect a stream. -/
inductive Direction where
  | file (mode : OpenMode)
  | duplicate
  /-- The lines after the current one are read; `stripsTabs` tells whether they lose the
  tabs at their start. -/
  | document (stripsTabs : Bool)
  deriving DecidableEq, Repr

/-- A token of a script. -/
inductive Token where
  | endOfText
  | newline
  | redirection (stream : Nat) (direction : Direction)
  | word (word : Word)
  | operator (text : String)
  | reserved (text : String)

/-- The words with a meaning of their own at the start of a command. -/
def reservedWords : List String :=
  ["!", "case", "do", "done", "elif", "else", "esac", "fi", "for", "if", "in", "then", "until",
   "while", "\x7b", "\x7d"]

namespace Token

/-- What messages call a token. -/
def name : Token → String
  | endOfText => "end of file"
  | newline => "newline"
  | redirection .. => "redirection"
  | word _ => "word"
  | operator text => "\"" ++ text ++ "\""
  | reserved text => "\"" ++ text ++ "\""

/-- Whether a token is the given operator. -/
def isOperator (text : String) : Token → Bool
  | operator other => other = text
  | _ => false

/-- Whether a token is the given reserved word. -/
def isReserved (text : String) : Token → Bool
  | reserved other => other = text
  | _ => false

/-- Whether a list of commands may end before a token. -/
def endsList : Token → Bool
  | endOfText => true
  | operator text => [")", ";;"].contains text
  | reserved text => ["do", "done", "elif", "else", "esac", "fi", "then", "\x7d"].contains text
  | _ => false

/-- The reserved word that a token is where reserved words count. -/
def asReserved : Token → Token
  | word pieces =>
    match (Word.plain? pieces).map String.ofList with
    | some text => if reservedWords.contains text then .reserved text else .word pieces
    | none => .word pieces
  | token => token

end Token

/-- What can be wrong with the text of a script. -/
inductive Violation where
  | unexpected (found : String) (expected : Option String)
  | openQuotes
  | openBrace
  | openArithmetic
  | openSubstitution
  | badLoopVariable
  | badFunctionName
  | badStream
  /-- The text is too deeply nested to be read. -/
  | tooDeep
  deriving DecidableEq, Repr

/-- What is said about the text of a script. -/
def Violation.message : Violation → String
  | unexpected found none => found ++ " unexpected"
  | unexpected found (some expected) => found ++ " unexpected (expecting " ++ expected ++ ")"
  | openQuotes => "Unterminated quoted string"
  | openBrace => "Missing '\x7d'"
  | openArithmetic => "Missing '))'"
  | openSubstitution => "EOF in backquote substitution"
  | badLoopVariable => "Bad for loop variable"
  | badFunctionName => "Bad function name"
  | badStream => "Bad fd number"
  | tooDeep => "Too many nested commands"

/-- A place at which the text of a script is wrong. -/
structure SyntaxError where
  line : Nat
  violation : Violation
  deriving DecidableEq, Repr

end BridgeSetup.Script
