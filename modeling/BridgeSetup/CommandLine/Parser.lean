import BridgeSetup.CommandLine.Arguments

/-!
# Reading the command line

Arguments are read from left to right. A value may follow its option as an argument of its
own or after an equals sign; an argument that starts with a hyphen is never taken as a
value, a single hyphen apart. Short names may be put together behind one hyphen. Nothing
may follow a double hyphen, and no option may be given twice.

A value that stands as an argument of its own is only checked when the next option has
been recognized, or at the end: an unknown option after it is reported first.
-/

namespace BridgeSetup.CommandLine

/-- Why a command line is not carried out. -/
inductive UsageError where
  /-- The Java module is not given. -/
  | missingRequired
  /-- There is no such option, or the argument does not belong to any. -/
  | unknownArgument
  /-- A value is missing, or a path is empty. -/
  | invalidValue
  /-- A value is not one that the option takes. -/
  | rejectedValue (detail : String)
  /-- An option is given twice. -/
  | conflict
  /-- An option without a value is given one. -/
  | tooManyValues
  /-- The help page is asked for. -/
  | help
  /-- The version is asked for. -/
  | version
  deriving DecidableEq, Repr

namespace UsageError

/-- The exit status of a command line that is not carried out. -/
def exitStatus : UsageError → Int
  | help | version => 0
  | _ => 2

end UsageError

/-- What has been read so far. -/
structure Draft where
  /-- The checked values. -/
  values : List (Setting × String)
  /-- The options without a value. -/
  switches : List Switch
  /-- The option given last, if it is not checked yet, and its value once it is known. -/
  pending : Option (Setting × Option String)
  /-- Whether a double hyphen has been read. -/
  closed : Bool
  deriving DecidableEq, Repr

namespace Draft

/-- The beginning of a command line. -/
def empty : Draft := ⟨[], [], none, false⟩

/-- The value of an option. -/
def value? (draft : Draft) (setting : Setting) : Option String :=
  draft.values.lookup setting

/-- The value of an option that names a path. -/
def path? (draft : Draft) (setting : Setting) : Option Path :=
  (draft.value? setting).map Path.mk

/-- Checks a value against what its option takes: any text, a level, or a path, which is
not empty. -/
def checkValue (setting : Setting) (text : String) : Except UsageError Unit :=
  match setting with
  | .snapHome | .reqArch => .ok ()
  | .logLevel => (Level.parse text).mapError .rejectedValue |>.map fun _ => ()
  | _ => if text = "" then .error .invalidValue else .ok ()

/-- The draft with a value for an option. -/
def give (draft : Draft) (setting : Setting) (text : String) : Except UsageError Draft :=
  if (draft.value? setting).isSome then .error .conflict
  else do
    checkValue setting text
    return { draft with values := draft.values ++ [(setting, text)] }

/-- The draft with the pending option checked. -/
def settle (draft : Draft) : Except UsageError Draft :=
  match draft.pending with
  | none => .ok draft
  | some (_, none) => .error .invalidValue
  | some (setting, some text) => { draft with pending := none }.give setting text

/-- The draft with one more option without a value. -/
def turnOn (draft : Draft) (switch : Switch) : Except UsageError Draft := do
  let draft ← draft.settle
  match switch with
  | .help => .error .help
  | .version => .error .version
  | switch =>
    if draft.switches.contains switch then .error .conflict
    else .ok { draft with switches := draft.switches ++ [switch] }

/-- The draft after a group of short names. -/
def readLetters (draft : Draft) : List Char → Except UsageError Draft
  | [] => .ok draft
  | letter :: rest =>
    match Switch.ofLetter? letter with
    | none => .error .unknownArgument
    | some switch => do readLetters (← draft.turnOn switch) rest

/-- The draft after a long name, with the text after its equals sign if it has one. -/
def readLong (draft : Draft) (name : String) (attached : Option String) :
    Except UsageError Draft :=
  match Key.ofName? name, attached with
  | none, _ => .error .unknownArgument
  | some (.switch _), some _ => .error .tooManyValues
  | some (.switch switch), none => draft.turnOn switch
  | some (.setting setting), some text => do (← draft.settle).give setting text
  | some (.setting setting), none => do
    return { ← draft.settle with pending := some (setting, none) }

/-- The draft after an argument that is not the name of an option. -/
def readPlain (draft : Draft) (argument : String) : Except UsageError Draft :=
  match draft.pending with
  | some (setting, none) => .ok { draft with pending := some (setting, some argument) }
  | _ => .error .unknownArgument

/-- A long name and what is attached to it by an equals sign. -/
def splitAtEquals (chars : List Char) : String × Option String :=
  match chars.dropWhile (· ≠ '=') with
  | [] => (String.ofList chars, none)
  | _ :: rest => (String.ofList (chars.takeWhile (· ≠ '=')), some (String.ofList rest))

/-- The draft after one more argument. -/
def read (draft : Draft) (argument : String) : Except UsageError Draft :=
  if draft.closed then .error .unknownArgument
  else
    match argument.toList with
    | ['-', '-'] => .ok { draft with closed := true }
    | '-' :: '-' :: rest =>
      let (name, attached) := splitAtEquals rest
      draft.readLong name attached
    | ['-'] => draft.readPlain argument
    | '-' :: letters => draft.readLetters letters
    | _ => draft.readPlain argument

/-- The draft after several arguments. -/
def readAll (draft : Draft) : List String → Except UsageError Draft
  | [] => .ok draft
  | argument :: rest => do readAll (← draft.read argument) rest

/-- What a draft says, once all arguments have been read. -/
def complete (draft : Draft) : Except UsageError Arguments := do
  let draft ← draft.settle
  match draft.path? .javaModule with
  | none => .error .missingRequired
  | some javaModule =>
    let logLevel := ((draft.value? .logLevel).bind fun text => (Level.parse text).toOption)
    return {
      snapHome := draft.value? .snapHome
      reqArch := draft.value? .reqArch
      javaModule := javaModule
      javaHome := draft.path? .javaHome
      python := draft.path? .python
      installDir := draft.path? .installDir
      logFile := draft.path? .logFile
      logLevel := logLevel.getD .info
      reqJava := draft.switches.contains .reqJava
      reqPython := draft.switches.contains .reqPython
      force := draft.switches.contains .force }

end Draft

/-- What a command line says. -/
def parse (arguments : List String) : Except UsageError Arguments := do
  (← Draft.empty.readAll arguments).complete

end BridgeSetup.CommandLine
