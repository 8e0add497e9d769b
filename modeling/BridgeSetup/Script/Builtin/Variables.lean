import BridgeSetup.Script.Builtin.Operands

/-!
# Variables and options

The commands that mark, remove and show variables, and the one that switches options.
-/

namespace BridgeSetup.Script.Builtin

/-- The variables in the order of their names. -/
def sortedVariables (shell : Shell) : List Variable :=
  shell.bindings.mergeSort fun first second => inOrder first.name second.name

/-- A variable with its value. -/
def shown (entry : Variable) : ByteText :=
  match entry.value with
  | some value => entry.name ++ '=' :: singleQuoted value
  | none => entry.name

/-- Marks variables, which may get a value first, or shows those that are marked. -/
def mark (command : String) (isMarked : Variable → Bool) (marked : Variable → Variable)
    (operands : List ByteText) : Action Unit := do
  let (letters, operands) ← takeOptions ['p'] operands
  if letters.isEmpty && !operands.isEmpty then
    operands.forM fun operand => do
      let (name, value) :=
        match operand.span (· ≠ '=') with
        | (name, _ :: value) => (name, some value)
        | (name, []) => (name, none)
      let shell ← get
      match value, shell.stored? name with
      | some value, _ =>
        Action.assign name value
        let entry := ((← get).stored? name).getD { name }
        modify (·.withVariable (marked entry))
      | none, some entry => set (shell.withVariable (marked entry))
      | none, none =>
        if isName name then set (shell.withVariable (marked { name }))
        else Action.fail (name ++ ": bad variable name".toList)
    Action.setStatus 0
  else
    let entries := (sortedVariables (← get)).filter isMarked
    reply (entries.flatMap fun entry => command.toList ++ ' ' :: shown entry ++ ['\n'])

/-- Removes variables or functions. -/
def unset (operands : List ByteText) : Action Unit := do
  let (letters, operands) ← takeOptions ['v', 'f'] operands
  operands.forM fun name => do
    let shell ← get
    if letters.getLast? = some 'f' then
      set { shell with functions := shell.functions.filter (·.1 ≠ name) }
    else if (shell.stored? name).any Variable.isReadOnly then
      Action.fail (name ++ ": is read only".toList)
    else if isName name then set (shell.withoutVariable name)
    else Action.fail (name ++ ": bad variable name".toList)
  Action.setStatus 0

/-- Makes variables belong to the function that is being run. -/
def makeLocal (operands : List ByteText) : Action Unit := do
  operands.forM fun operand => do
    let (name, value) :=
      match operand.span (· ≠ '=') with
      | (name, _ :: value) => (name, some value)
      | (name, []) => (name, none)
    let shell ← get
    match shell.replaced with
    | [] => Action.fail "not in a function".toList
    | inner :: outer =>
      set { shell with replaced := ((name, shell.stored? name) :: inner) :: outer }
      match value with
      | some value => Action.assign name value
      | none =>
        if (shell.stored? name).isNone then
          if isName name then modify (·.withVariable { name })
          else Action.fail (name ++ ": bad variable name".toList)
  if (← get).replaced.isEmpty then Action.fail "not in a function".toList
  Action.setStatus 0

/-- The option that a letter stands for. -/
def optionOfLetter? (letter : Char) : Option String :=
  (optionTable.find? (·.2 = some letter)).map Prod.fst

/-- The state of all options as a table or as commands. -/
def optionReport (shell : Shell) (isTable : Bool) : ByteText :=
  if isTable then
    "Current option settings\n".toList ++ optionTable.flatMap fun (option, _) =>
      let padding := String.ofList (List.replicate (16 - option.length) ' ')
      (option ++ padding ++ (if shell.hasOption option then "on\n" else "off\n")).toList
  else
    optionTable.flatMap fun (option, _) =>
      ((if shell.hasOption option then "set -o " else "set +o ") ++ option ++ "\n").toList

/-- Switches the options that letters stand for; an `o` takes the name of an option from the
operands. Yields the operands that are left. -/
def switchOptions (isOn : Bool) : (letters : List Char) → List ByteText →
    Action (List ByteText)
  | [], operands => return operands
  | 'o' :: letters, operands => do
    match operands with
    | [] =>
      reply (optionReport (← get) isOn)
      switchOptions isOn letters []
    | name :: operands =>
      let option := String.ofList name
      if optionTable.any (·.1 = option) then
        modify (·.withOption option isOn)
        switchOptions isOn letters operands
      else Action.fail ("Illegal option -o ".toList ++ name)
  | letter :: letters, operands => do
    match optionOfLetter? letter with
    | some option =>
      modify (·.withOption option isOn)
      switchOptions isOn letters operands
    | none => failOption letter

/-- Switches the options at the start of some operands. Yields the operands after them, and
whether these are arguments even if there are none; `fuel` bounds the number of operands. -/
def switchAll : (fuel : Nat) → List ByteText → Action (List ByteText × Bool)
  | 0, operands => return (operands, false)
  | fuel + 1, operands => do
    match operands with
    | ['-', '-'] :: rest => return (rest, true)
    | ['-'] :: rest =>
      modify fun shell => (shell.withOption "xtrace" false).withOption "verbose" false
      return (rest, false)
    | ('-' :: letters) :: rest => switchAll fuel (← switchOptions true letters rest)
    | ('+' :: letters) :: rest => switchAll fuel (← switchOptions false letters rest)
    | operands => return (operands, false)

/-- Switches options and replaces the arguments, or shows all variables. -/
def setAll (operands : List ByteText) : Action Unit := do
  if operands.isEmpty then
    let entries := (sortedVariables (← get)).filter (·.value.isSome)
    reply (entries.flatMap fun entry => shown entry ++ ['\n'])
  else
    Action.setStatus 0
    let (arguments, replaces) ← switchAll (operands.length + 1) operands
    if replaces || !arguments.isEmpty then modify ({ · with arguments })

end BridgeSetup.Script.Builtin
