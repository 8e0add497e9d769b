import BridgeSetup.Script.Builtin.Operands

/-!
# Signals

The commands that send signals, say what is run when they come, and wait.
-/

namespace BridgeSetup.Script.Builtin

/-- A signal that has a name of its own. -/
structure Signal where
  number : Nat
  name : String
  /-- What is said about a process that the signal has ended. -/
  description : String := ""
  /-- Whether the signal does nothing to a process that has not asked for it. -/
  isHarmless : Bool := false
  deriving DecidableEq, Repr

/-- The signals that have a name of their own. Number zero stands for the end of a script. -/
def signalTable : List Signal :=
  [{ number := 0, name := "EXIT", isHarmless := true },
   { number := 1, name := "HUP", description := "Hangup" },
   { number := 2, name := "INT" },
   { number := 3, name := "QUIT", description := "Quit" },
   { number := 4, name := "ILL", description := "Illegal instruction" },
   { number := 5, name := "TRAP", description := "Trace/breakpoint trap" },
   { number := 6, name := "ABRT", description := "Aborted" },
   { number := 7, name := "BUS", description := "Bus error" },
   { number := 8, name := "FPE", description := "Floating point exception" },
   { number := 9, name := "KILL", description := "Killed" },
   { number := 10, name := "USR1", description := "User defined signal 1" },
   { number := 11, name := "SEGV", description := "Segmentation fault" },
   { number := 12, name := "USR2", description := "User defined signal 2" },
   { number := 13, name := "PIPE" },
   { number := 14, name := "ALRM", description := "Alarm clock" },
   { number := 15, name := "TERM", description := "Terminated" },
   { number := 17, name := "CHLD", isHarmless := true },
   { number := 18, name := "CONT", isHarmless := true },
   { number := 19, name := "STOP" },
   { number := 20, name := "TSTP" },
   { number := 21, name := "TTIN" },
   { number := 22, name := "TTOU" },
   { number := 23, name := "URG", isHarmless := true },
   { number := 24, name := "XCPU", description := "CPU time limit exceeded" },
   { number := 25, name := "XFSZ", description := "File size limit exceeded" },
   { number := 26, name := "VTALRM", description := "Virtual timer expired" },
   { number := 27, name := "PROF", description := "Profiling timer expired" },
   { number := 28, name := "WINCH", isHarmless := true },
   { number := 29, name := "IO", description := "I/O possible" },
   { number := 30, name := "PWR", description := "Power failure" },
   { number := 31, name := "SYS", description := "Bad system call" }]

/-- The number after the one of the last signal. -/
def signalLimit : Nat := 65

/-- The signal that cannot be ignored and at which nothing can be run. -/
def killSignal : Nat := 9

/-- The signal that is sent if none is named. -/
def terminationSignal : Nat := 15

/-- The name of a signal. Signals without a name of their own are counted from the ends of
their range, or have their number as a name. -/
def signalName (number : Nat) : ByteText :=
  match signalTable.find? (·.number = number) with
  | some signal => signal.name.toList
  | none =>
    if number = 34 then "RTMIN".toList
    else if number = 64 then "RTMAX".toList
    else if 34 < number && number < 50 then ("RTMIN+" ++ toString (number - 34)).toList
    else if 49 < number && number < 64 then ("RTMAX-" ++ toString (64 - number)).toList
    else (toString number).toList

/-- What is said about a process that a signal has ended. -/
def signalDescription (number : Nat) : String :=
  match signalTable.find? (·.number = number) with
  | some signal => signal.description
  | none =>
    if 34 ≤ number then "Real-time signal " ++ toString (number - 34)
    else "Unknown signal " ++ toString number

/-- Whether a signal does nothing to a process that has not asked for it. -/
def isHarmless (number : Nat) : Bool :=
  signalTable.any fun signal => signal.number = number && signal.isHarmless

/-- The number, from `least` on, of a signal that is given by a number or a name. -/
def signalFrom? (least : Nat) (text : ByteText) : Option Nat :=
  if !text.isEmpty && text.all Char.isDigit then
    let number := (digitsFrom 10 0 text).1
    if number < signalLimit then some number else none
  else
    (List.range signalLimit).find? fun number =>
      least ≤ number && signalName number = text.map Char.toUpper

/-- The number of a signal at which something can be run. -/
def signal? (text : ByteText) : Option Nat :=
  signalFrom? 0 text

/-- Sets what is run at signals, or shows it. -/
def trap (operands : List ByteText) : Action Unit := do
  let (_, operands) ← takeOptions [] operands
  let shell ← get
  match operands with
  | [] =>
    let traps := shell.traps.mergeSort fun first second => first.1 ≤ second.1
    reply (traps.flatMap fun (number, action) =>
      "trap -- ".toList ++ singleQuoted action ++ ' ' :: signalName number ++ ['\n'])
  | first :: rest =>
    let isNumber := !first.isEmpty && first.all Char.isDigit
    let isAction := !rest.isEmpty && !(isNumber && (signal? first).isSome)
    let action := if isAction && first ≠ ['-'] then some first else none
    let names := if isAction then rest else operands
    Action.setStatus 0
    names.forM fun name => do
      if (← get).status = 0 then
        match signal? name with
        | some number =>
          modify fun shell =>
            let others := shell.traps.filter (·.1 ≠ number)
            { shell with
              traps := match action with
                | some action => (number, action) :: others
                | none => others }
        | none =>
          Action.writeAnyway 2 ("trap: ".toList ++ name ++ ": bad trap\n".toList)
          Action.setStatus 1

/-- Fails because an operand names no command that is being run. -/
def failJob {α : Type} (operand : ByteText) : Action α :=
  Action.fail ("No such job: ".toList ++ operand)

/-- Sends a signal to the script itself. -/
def signalScript (number : Nat) : Action Unit := do
  let shell ← get
  let action := (shell.mainTraps.getD shell.traps).lookup number
  if number = killSignal then Action.depart (.dies number)
  else
    match action with
    | some [] => return
    | some _ => set { shell with pending := shell.pending ++ [number] }
    | none => if isHarmless number then return else Action.depart (.dies number)

/-- The number of the process that an operand names. -/
def processOf (operand : ByteText) : Action ByteText := do
  match operand with
  | '%' :: _ => failJob operand
  | '-' :: number =>
    let _ ← numberOf number
    return operand
  | number => return (toString (← numberOf number)).toList

/-- Sends a signal to processes one after the other. Only the script's own process can be
found. -/
def signalAll (number : Nat) (operands : List ByteText) : Action Unit := do
  Action.setStatus 0
  operands.forM fun operand => do
    if (← processOf operand) = ownProcess then signalScript number
    else
      Action.complain "No such process\n".toList
      Action.setStatus 1

/-- Fails because the operands of a command that sends signals are not understood. -/
def failKill {α : Type} : Action α :=
  Action.fail
    ("Usage: kill [-s sigspec | -signum | -sigspec] [pid | job]... or\n" ++
      "kill -l [exitstatus]").toList

/-- The signal with the name that follows an option, and whether names are asked for, as the
options at the start of some operands say, with the operands after them; `fuel` bounds the
number of options. -/
def killOptions : (fuel : Nat) → (signal : Option Nat) → (lists : Bool) → List ByteText →
    Action (Option Nat × Bool × List ByteText)
  | 0, signal, lists, operands => return (signal, lists, operands)
  | fuel + 1, signal, lists, operands => do
    match operands with
    | ['-', '-'] :: rest => return (signal, lists, rest)
    | ('-' :: letter :: letters) :: rest =>
      if letter = 'l' then
        killOptions fuel signal true
          (if letters.isEmpty then rest else ('-' :: letters) :: rest)
      else if letter = 's' then
        let (name, rest) ←
          match letters, rest with
          | [], [] => Action.fail "No arg for -s option".toList
          | [], name :: rest => pure (name, rest)
          | name, rest => pure (name, rest)
        match signalFrom? 1 name with
        | some number => killOptions fuel (some number) lists rest
        | none => Action.fail ("invalid signal number or name: ".toList ++ name)
      else failOption letter
    | operands => return (signal, lists, operands)

/-- Shows the names of all signals, or of the one that an exit status tells of. -/
def listSignals (operands : List ByteText) : Action Unit := do
  match operands with
  | [] =>
    let names := ((List.range signalLimit).drop 1).map fun number => signalName number ++ ['\n']
    reply ("0\n".toList ++ names.flatten)
  | operand :: _ =>
    let status ← numberOf operand
    let number := if 128 < status then status - 128 else status
    if 0 < number && number < signalLimit then reply (signalName number ++ ['\n'])
    else Action.fail ("invalid signal number or exit status: ".toList ++ operand)

/-- Sends a signal, or shows the names of signals. -/
def kill (operands : List ByteText) : Action Unit := do
  let direct : Option Nat :=
    match operands with
    | ('-' :: name) :: _ => signalFrom? 1 name
    | _ => none
  let (signal, lists, rest) ←
    match direct with
    | some number => pure (some number, false, operands.tail)
    | none => killOptions (operands.flatten.length + 1) none false operands
  if lists then
    if signal.isSome && !rest.isEmpty then failKill else listSignals rest
  else if rest.isEmpty then failKill
  else signalAll (signal.getD terminationSignal) rest

/-- Waits for commands, which have ended. -/
def wait (operands : List ByteText) : Action Unit := do
  let (_, operands) ← takeOptions [] operands
  Action.setStatus 0
  operands.forM fun operand => do
    let shell ← get
    if operand = lastProcess then Action.setStatus (shell.backgroundStatus.getD 127)
    else if operand.head? = some '%' then failJob operand
    else
      let _ ← numberOf operand
      Action.setStatus 127

end BridgeSetup.Script.Builtin
