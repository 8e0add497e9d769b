import BridgeSetup.Script.Pattern

/-!
# Executable files

What is started when a file is executed. The first line of a file names a program, its
interpreter, which is started with the path of the file as an argument. The interpreter may
be such a file itself; in the end there is the shell, which is the only program that is not
described by its file. The shell also takes over files that are no programs, and looks for
programs in several directories.
-/

namespace BridgeSetup.Script

/-- Where the shell is. -/
def shellLocation : Location := ["sh", "bin"]

/-- The path of the shell. -/
def shellPath : ByteText := "/bin/sh".toList

/-- The shell as a file. Its contents do not matter. -/
def shellFile : Node := .file [] 0o755

/-- The number of bytes at the start of a file that are looked at. -/
def firstLineLimit : Nat := 256

/-- Whether a character separates the parts of a first line. -/
def isGap (c : Char) : Bool :=
  c = ' ' || c = '\t'

/-- The interpreter that is named by a text, and the one argument that it is given. -/
def namedInterpreter? (text : ByteText) : Option (ByteText × Option ByteText) :=
  let text := (text.reverse.dropWhile isGap).reverse.dropWhile isGap
  let name := text.takeWhile fun c => !isGap c && c ≠ '\x00'
  match text, text.drop name.length with
  | [], _ => none
  | _, [] | _, '\x00' :: _ => some (name, none)
  | _, rest => some (name, some ((rest.dropWhile isGap).takeWhile (· ≠ '\x00')))

/-- The interpreter of a file, and the one argument that it is given. If the first line does
not end within the bytes that are looked at, the name of the interpreter has to. -/
def interpreter? (contents : Bytes) : Option (ByteText × Option ByteText) :=
  let start := ofBytes (contents.take firstLineLimit)
  let start := start ++ List.replicate (firstLineLimit - start.length) '\x00'
  match start with
  | '#' :: '!' :: text =>
    let line := text.takeWhile fun c => c ≠ '\n' && c ≠ '\x00'
    if (text.drop line.length).head? = some '\n' then namedInterpreter? line
    else if (text.dropWhile isGap).any fun c => isGap c || c = '\x00' then
      namedInterpreter? text.dropLast
    else none
  | _ => none

/-- The number of files whose interpreters are started one for the other. -/
def maxInterpreters : Nat := 5

/-- The arguments with which the shell is started, its own name first, when a file is
executed with the given arguments; `others` is the number of files that may still name
interpreters. -/
def launchFrom (files : FileTree) (here : Location) : (others : Nat) → (file : Location) →
    (arguments : List ByteText) → Except Fault (List ByteText)
  | others, file, arguments =>
    if file = shellLocation then .ok arguments
    else
      match (files.contentsAt? file).bind interpreter? with
      | none => .error .notExecutable
      | some (name, argument) =>
        match files.executableAt here (pathOf name), others with
        | .error (.system fault), _ => .error fault
        | .error _, _ => .error .notFound
        | .ok _, 0 => .error .tooManyLinks
        | .ok file, others + 1 =>
          launchFrom files here others file (name :: argument.toList ++ arguments)

/-- The arguments with which the shell is started when a file is executed. -/
def launch (files : FileTree) (here file : Location) (arguments : List ByteText) :
    Except Fault (List ByteText) :=
  launchFrom files here maxInterpreters file arguments

/-! ## Programs of the shell -/

/-- The directories in which programs are looked for if nothing else is known. -/
def defaultPath : ByteText :=
  "/usr/local/sbin:/usr/local/bin:/usr/sbin:/usr/bin:/sbin:/bin".toList

/-- The paths at which a program may be that is called by a name. -/
def candidates (searchPath name : ByteText) : List ByteText :=
  if name.contains '/' then [name]
  else
    (searchPath.splitOnP (· = ':')).map fun directory =>
      if directory.isEmpty then name else directory ++ '/' :: name

/-- Whether a fault says that there is nothing at a path. -/
def isAbsence (fault : Fault) : Bool :=
  fault = .notFound || fault = .notADirectory

/-- What the shell says about a program that cannot be executed. -/
def programFault (fault : Fault) : ByteText :=
  if isAbsence fault then "not found".toList else ofText fault.text

/-- The exit status that stands for a program that cannot be executed. -/
def programStatus (fault : Fault) : Nat :=
  if isAbsence fault || fault = .tooManyLinks || fault = .nameTooLong then 127 else 126

/-- The fault that counts after one more candidate had one. -/
def laterFault (earlier later : Fault) : Fault :=
  if isAbsence later then earlier else later

/-- The candidates from the first one on that is a file which may be executed. -/
def search (files : FileTree) (here : Location) : (fault : Fault) → List ByteText →
    Except Fault (List ByteText)
  | fault, [] => .error fault
  | fault, path :: rest =>
    match files.executableAt here (pathOf path) with
    | .ok _ => .ok (path :: rest)
    | .error (.system later) => search files here (laterFault fault later) rest
    | .error _ => search files here fault rest

/-- The arguments with which the shell is started for a program at a path. -/
def programAt (files : FileTree) (here : Location) (name path : ByteText)
    (operands : List ByteText) : Except Fault (List ByteText) :=
  match files.executableAt here (pathOf path) with
  | .error (.system fault) => .error fault
  | .error _ => .error .notFound
  | .ok file =>
    if file = shellLocation then .ok (name :: operands)
    else
      match launch files here file (path :: operands) with
      | .error .notExecutable => .ok (shellPath :: path :: operands)
      | result => result

/-- The arguments with which the shell is started for the first of several candidates that
can be executed. -/
def programAlong (files : FileTree) (here : Location) (name : ByteText)
    (operands : List ByteText) : (fault : Fault) → List ByteText →
    Except Fault (List ByteText)
  | fault, [] => .error fault
  | fault, path :: rest =>
    match programAt files here name path operands with
    | .ok arguments => .ok arguments
    | .error later => programAlong files here name operands (laterFault fault later) rest

end BridgeSetup.Script
