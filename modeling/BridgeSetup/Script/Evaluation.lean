import BridgeSetup.Script.Call
import BridgeSetup.Script.Session

/-!
# Running commands

What each kind of command does. The commands and words inside a command are left to an
`Inner`; `meaning` ties the knot, so that commands may be nested up to a depth, which also
bounds how deeply functions call each other.
-/

namespace BridgeSetup.Script

/-- The number of functions that may be run one inside the other. -/
def functionLimit : Nat := 1000

/-- The number of rounds after which a loop is given up. -/
def roundLimit : Nat := 1000000

/-- How a loop goes on after a part of it. -/
inductive Course where
  /-- With the next part. -/
  | onward
  /-- With the next round. -/
  | again
  /-- Not at all. -/
  | out
  deriving DecidableEq, Repr

/-- What a variable was before it was changed. -/
abbrev Former := ByteText × Option Variable

/-- The shell with variables as they were, of which the last changed comes first. -/
def Shell.restoreVariables (shell : Shell) (former : List Former) : Shell :=
  former.foldl
    (fun shell (name, entry) =>
      match entry with
      | some entry => shell.withVariable entry
      | none => shell.withoutVariable name)
    shell

namespace Inner

/-! ## Simple commands -/

/-- The fields of a simple command, after those that are already known. -/
def fieldsFrom (inner : Inner) (known : List ByteText) : List Word → Action (List ByteText)
  | [] => return known
  | word :: rest => do
    let assigns := ((Call.ofFields? (← get) known).map Call.assigns).getD false
    let isAssignment := assigns && word.assignment?.isSome
    let fields ← if isAssignment then pure [← inner.assignedValue word] else inner.fields word
    inner.fieldsFrom (known ++ fields) rest

/-- Carries out the assignments of a command, and then an action that is given them as
texts, after those that are known in reverse order. Lasting assignments stay. -/
def withAssignments (inner : Inner) (isLasting exports : Bool)
    (action : List ByteText → Action Unit) (known : List ByteText) :
    List (ByteText × Word) → Action Unit
  | [] => action known.reverse
  | (name, word) :: rest => do
    let value ← inner.assignedValue word
    let former : Former := (name, (← get).stored? name)
    let run : Action Unit := do
      Action.assign name value exports
      inner.withAssignments isLasting exports action ((name ++ '=' :: value) :: known) rest
    if isLasting then run else Action.afterwards run (modify (·.restoreVariables [former]))

/-- What is written before a command that is shown. No commands are run for it. -/
def traceStart (inner : Inner) : Action ByteText := do
  let text := ((← get).value? "PS4").getD []
  match Script.piecesFrom (Reader.fail .tooDeep) (text.length + 1) .document { rest := text }
    with
  | .ok (word, _) => return textOf (Mark.letters (← inner.expand { tilde := .nowhere } word))
  | .error _ => return text

/-- Shows a command if that is asked for, on a channel that is given. -/
def trace (inner : Inner) (channel : Option Nat) (texts : List ByteText) : Action Unit := do
  if (← get).hasOption "xtrace" then
    let text := (← inner.traceStart) ++ List.intercalate [' '] texts ++ ['\n']
    modify fun shell =>
      match (shell.setStream 2 channel).write? 2 text with
      | some written => { written with streams := shell.streams }
      | none => shell

/-- Runs a function. -/
def callFunction (inner : Inner) (isTested : Bool) (body : Command)
    (arguments : List ByteText) : Action Unit := do
  let before ← get
  if functionLimit ≤ before.replaced.length then
    Action.fail ("Maximum function recursion depth (" ++ toString functionLimit ++
      ") reached").toList
  else
    set { before with arguments, loops := 0, replaced := [] :: before.replaced }
    let departure ← Action.outcome (inner.run body isTested)
    modify fun shell =>
      { shell.restoreVariables (shell.replaced.headD []) with
        arguments := before.arguments, loops := before.loops, replaced := before.replaced }
    if departure ≠ some .returns then Action.resume departure

/-- Runs another shell, and yields how it was left and its exit status. -/
def process (inner : Inner) (arguments : List ByteText) : Action (Option Departure × Nat) := do
  let start (shell : Shell) : Shell :=
    { Shell.start shell.files shell.channels shell.streams shell.here shell.exported with
      mask := shell.mask, traps := shell.withoutTraps.traps }
  let (departure, ended) ← Action.elsewhere start (inner.session arguments)
  return (departure, ended.status)

/-- Runs a program and waits for its end. -/
def callProgram (inner : Inner) (call : Call) : Action Unit := do
  let shell ← get
  match call.found shell with
  | .error fault =>
    complainProgram call.name fault
    Action.setStatus 127
  | .ok paths =>
    match programAlong shell.files shell.here call.name call.operands .notFound paths with
    | .error fault =>
      complainProgram call.name fault
      Action.setStatus (programStatus fault)
    | .ok arguments =>
      match ← inner.process arguments with
      | (some (.dies signal), _) =>
        let description := Builtin.signalDescription signal
        if description ≠ "" then Action.writeAnyway 2 (description ++ "\n").toList
        Action.setStatus (128 + signal)
      | (_, status) => Action.setStatus status

/-- Runs a program in the place of the script, which it ends. -/
def become (inner : Inner) (call : Call) : Action Unit := do
  let shell ← get
  match programAlong shell.files shell.here call.name call.operands .notFound
      (call.candidates shell) with
  | .error fault =>
    complainProgram call.name fault
    Action.setStatus (programStatus fault)
  | .ok arguments =>
    match ← inner.process arguments with
    | (some (.dies signal), _) => Action.depart (.dies signal)
    | (_, status) => modify ({ · with status, traps := [] })
  Action.depart .ends

/-- The path of a file that is to be run as a part of the script. -/
def partPath (name : ByteText) : Action ByteText := do
  let shell ← get
  let call : Call := { name, operands := [] }
  if name.contains '/' then return name
  else
    match (call.candidates shell).find? fun path => shell.files.isFile shell.here (pathOf path)
      with
    | some path => return path
    | none => Action.fail (name ++ ": not found".toList)

/-- Runs a file as a part of the script. -/
def runPart (inner : Inner) (operands : List ByteText) : Action Unit := do
  let (_, operands) ← Builtin.takeOptions [] operands
  match operands with
  | [] => Action.setStatus 0
  | name :: _ =>
    let path ← partPath name
    let text ← fileText path
    modify ({ · with speaker := some path })
    let departure ← Action.outcome (inner.runScript text)
    if departure ≠ some .returns then Action.resume departure

/-- Runs a command of the shell. -/
def callOwn (inner : Inner) (isTested : Bool) (call : Call) : Action Unit := do
  let operands := call.operands
  match String.ofList call.name with
  | "." => inner.runPart operands
  | "command" => Builtin.command operands
  | "eval" => inner.runText isTested (List.intercalate [' '] operands)
  | "exec" =>
    match operands with
    | [] => Action.setStatus 0
    | name :: operands => inner.become { call with name, operands }
  | name =>
    match Builtin.own? name with
    | some action => action operands
    | none => Action.setStatus 127

/-- Runs a command of the shell, which messages name. A failure that is none of a special
command does not go any further. -/
def callNamed (inner : Inner) (isTested isSpecial : Bool) (call : Call) : Action Unit := do
  let before := (← get).speaker
  modify ({ · with speaker := some call.name })
  let departure ← Action.outcome (inner.callOwn isTested call)
  modify ({ · with speaker := before })
  if isSpecial || departure ≠ some .fails then Action.resume departure

/-- Runs what is called. -/
def callTarget (inner : Inner) (isTested : Bool) (call : Call) : Target → Action Unit
  | .special => inner.callNamed isTested true call
  | .own => inner.callNamed isTested false call
  | .function body => inner.callFunction isTested body call.operands
  | .program => inner.callProgram call

/-- Runs a simple command. Its assignments are lasting only if no command is called or a
special one. -/
def simple (inner : Inner) (isTested : Bool) (assignments : List (ByteText × Word))
    (words : List Word) (redirections : List Redirection) : Action Unit := do
  modify ({ · with outputStatus := 0 })
  let fields ← inner.fieldsFrom [] words
  let shell ← get
  let call? := Call.ofFields? shell fields
  let target := call?.map (·.target shell)
  let isSpecial :=
    match target with
    | some .special => true
    | _ => false
  let isExec := (call?.map Call.name) = some "exec".toList
  let isLasting := target.isNone || isSpecial
  let exports := !isLasting || (isExec && 1 < fields.length)
  let channel := shell.streams.lookup 2
  inner.withStreams (← redirections.mapM inner.opening) isExec fun succeeded => do
    if !succeeded then if isSpecial then Action.depart .fails else return
    else
      let run (texts : List ByteText) : Action Unit := do
        inner.trace channel (texts ++ fields)
        match call?, target with
        | some call, some target => inner.callTarget isTested call target
        | _, _ => modify fun shell => { shell with status := shell.outputStatus }
      inner.withAssignments isLasting exports run [] assignments

/-! ## Compound commands -/

/-- Runs the stages of a pipeline from some place on, each with the output of the one before
as its input. Yields the exit status of the last one. -/
def stagesFrom (inner : Inner) (isTested : Bool) (input : Shell → Shell) :
    List Command → Action Nat
  | [] => return 0
  | [last] => inner.apart input (inner.run last isTested)
  | stage :: rest => do
    let channel := (← get).channels.length
    let _ ← inner.apart (fun shell => (input shell).openStream 1 (.collected []))
      (inner.run stage isTested)
    modify fun shell => shell.setChannel channel (.supplied (shell.collectedIn channel))
    inner.stagesFrom isTested (·.setStream 0 (some channel)) rest

/-- Runs a part of a loop, and tells how the loop goes on. -/
def partOfLoop (inner : Inner) (command : Command) (isTested : Bool) : Action Course := do
  match ← Action.outcome (inner.run command isTested) with
  | none => return .onward
  | some (.leaves (loops + 2)) => Action.depart (.leaves (loops + 1))
  | some (.resumes (loops + 2)) => Action.depart (.resumes (loops + 1))
  | some (.leaves _) => return .out
  | some (.resumes _) => return .again
  | some departure => Action.depart departure

/-- Runs the rounds of a loop, and yields the exit status of the last one, or `status` if
there is none. -/
def roundsFrom (inner : Inner) (isTested whileHolds : Bool) (test body : Command) :
    (rounds : Nat) → (status : Nat) → Action Nat
  | 0, _ => Action.depart (.dies Builtin.killSignal)
  | rounds + 1, status => do
    match ← inner.partOfLoop test true with
    | .out => return status
    | .again => inner.roundsFrom isTested whileHolds test body rounds status
    | .onward =>
      if ((← get).status = 0) != whileHolds then return status
      else
        let course ← inner.partOfLoop body isTested
        let status := (← get).status
        if course = .out then return status
        else inner.roundsFrom isTested whileHolds test body rounds status

/-- Runs a command for every text, which becomes the value of a variable, and yields the exit
status of the last round, or `status` if there is none. -/
def roundsOver (inner : Inner) (isTested : Bool) (name : ByteText) (body : Command)
    (status : Nat) : List ByteText → Action Nat
  | [] => return status
  | text :: rest => do
    Action.assign name text
    let course ← inner.partOfLoop body isTested
    let status := (← get).status
    if course = .out then return status
    else inner.roundsOver isTested name body status rest

/-- Runs the rounds of a loop, which count as those of one more loop, and sets the exit
status that they yield. -/
def asLoop (rounds : Action Nat) : Action Unit := do
  modify fun shell => { shell with loops := shell.loops + 1 }
  Action.afterwards (do Action.setStatus (← rounds))
    (modify fun shell => { shell with loops := shell.loops - 1 })

/-- Whether one of several patterns stands for a text. -/
def matchesAny (inner : Inner) (text : ByteText) : List Word → Action Bool
  | [] => return false
  | word :: rest => do
    let pattern := patternOf (← inner.letters word)
    if matchesText pattern text then return true else inner.matchesAny text rest

/-- Runs the first clause that stands for a text. -/
def select (inner : Inner) (isTested : Bool) (text : ByteText) :
    List (List Word × Option Command) → Action Unit
  | [] => Action.setStatus 0
  | (patterns, body) :: rest => do
    if ← inner.matchesAny text patterns then
      match body with
      | some body => inner.run body isTested
      | none => Action.setStatus 0
    else inner.select isTested text rest

/-! ## All commands -/

/-- Ends the script after a failure that nothing looks at, if the script asks for that. -/
def checkStatus (isTested : Bool) : Action Unit := do
  let shell ← get
  if !isTested && shell.hasOption "errexit" && shell.status ≠ 0 then Action.depart .ends

/-- Does what a command says. -/
def perform (inner : Inner) (isTested : Bool) : Command → Action Unit
  | .simple line assignments words redirections => do
    modify ({ · with line })
    inner.simple isTested assignments words redirections
  | .pipeline stages => do
    Action.setStatus (← inner.stagesFrom isTested id stages)
  | .negated command => do
    inner.run command true
    modify fun shell => { shell with status := if shell.status = 0 then 1 else 0 }
  | .both first second => do
    inner.run first true
    if (← get).status = 0 then inner.run second isTested
  | .either first second => do
    inner.run first true
    if (← get).status ≠ 0 then inner.run second isTested
  | .sequence first second => do
    inner.run first isTested
    inner.run second isTested
  | .background command => do
    let status ← inner.apart (·.openStream 0 .nothing) (inner.run command false)
    modify ({ · with backgroundStatus := some status, status := 0 })
  | .redirected line command redirections => do
    modify ({ · with line })
    inner.withStreams (← redirections.mapM inner.opening) false fun succeeded =>
      if succeeded then inner.run command isTested else checkStatus isTested
  | .enclosed line command redirections => do
    modify ({ · with line })
    let openings ← redirections.mapM inner.opening
    Action.setStatus (← inner.apart id do
      if ← inner.carryOutAll false [] openings then inner.run command isTested)
  | .conditional test yes no => do
    inner.run test true
    if (← get).status = 0 then inner.run yes isTested
    else
      match no with
      | some no => inner.run no isTested
      | none => Action.setStatus 0
  | .loop whileHolds test body =>
    asLoop (inner.roundsFrom isTested whileHolds test body roundLimit 0)
  | .forEach line name words body => do
    modify ({ · with line })
    let fields ← words.mapM inner.fields
    asLoop (inner.roundsOver isTested name body 0 fields.flatten)
  | .selection line subject clauses => do
    modify ({ · with line })
    inner.select isTested (← inner.text subject) clauses
  | .definition name body =>
    modify fun shell =>
      { shell with
        functions := (name, body) :: shell.functions.filter (·.1 ≠ name), status := 0 }

/-- Whether the failure of a command may end a script, and not only that of a part of it. -/
def isChecked : Command → Bool
  | .simple .. | .pipeline _ | .enclosed .. => true
  | _ => false

/-- Runs a command, then what is to be run at signals that came meanwhile. -/
def execute (inner : Inner) (command : Command) (isTested : Bool) : Action Unit := do
  if (← get).hasOption "noexec" then return
  inner.perform isTested command
  inner.answerSignals
  if isChecked command then checkStatus isTested

end Inner

/-! ## The meaning of commands -/

/-- What commands and words mean that are nested up to a depth. A script that goes deeper
has no room left, and is ended. -/
def meaning : (depth : Nat) → Inner
  | 0 => ⟨fun _ _ => Action.depart (.dies 11), fun _ _ => Action.depart (.dies 11)⟩
  | depth + 1 =>
    { run := fun command isTested => (meaning depth).execute command isTested
      expand := fun manner word => (meaning depth).piecesFrom manner true word }

/-- The depth to which commands may be nested. -/
def depthLimit : Nat := 10000

end BridgeSetup.Script
