import BridgeSetup.Setup.Execute

/-!
# The program as a whole

What one invocation of the program does: it reads its command line, opens its log, and
carries out the setup. Log messages go to the standard error stream, or to a file when one
is asked for.
-/

namespace BridgeSetup.Program

open CommandLine

/-- What the program leaves behind: its exit status, its output, and the file tree. -/
structure Outcome where
  status : Int
  stdout : String
  stderr : String
  files : FileTree

/-- What the program gets from its surroundings besides the environment of the run. -/
structure Terminal where
  /-- Whether tags are coloured. -/
  coloured : Bool
  /-- The time that lines of a log file show. -/
  time : String
  deriving DecidableEq, Repr

/-- Whether an environment variable asks for colours also where there is no terminal. -/
def forcesColour : Option String → Bool
  | some value => value ≠ "0"
  | none => false

/-- The name and the version of the program. -/
def versionText : String := "beampy-setup 0.1.0\n"

/-- What is said when the log file cannot be opened. -/
def logFileMessage (error : IoError) : String :=
  "Failed to open log file: " ++ error.message ++ "\n"

/-- Carries out a parsed command line with its log on the standard error stream. -/
def runOnConsole (env : Environment) (terminal : Terminal) (arguments : Arguments)
    (files : FileTree) : Outcome :=
  let (status, left) := Execute.execute env arguments (.start files arguments.logLevel)
  let shown := left.log.entries.map (·.onConsole terminal.coloured)
  ⟨status, "", String.join shown, left.files⟩

/-- Carries out a parsed command line with its log in a file, which is emptied first. -/
def runWithLogFile (env : Environment) (terminal : Terminal) (arguments : Arguments)
    (path : Path) (files : FileTree) : Outcome :=
  match (FileTree.openForWriting env.workingDirectory path env.refusals).runOn files with
  | (.error error, files) => ⟨SetupError.failureStatus, "", logFileMessage error, files⟩
  | (.ok location, files) =>
    let env := { env with logFile := some ⟨location, terminal.time⟩ }
    let (status, left) := Execute.execute env arguments (.start files arguments.logLevel)
    ⟨status, "", "", left.files⟩

/-- Carries out a parsed command line. -/
def carryOut (env : Environment) (terminal : Terminal) (arguments : Arguments)
    (files : FileTree) : Outcome :=
  match arguments.logFile with
  | none => runOnConsole env terminal arguments files
  | some path => runWithLogFile env terminal arguments path files

/-- How the program is called. -/
def usageText : String := "Usage: beampy-setup [OPTIONS] --java_module <JAVA_MODULE>\n"

/-- One line of the help page for an option that takes a value. -/
def settingLine (setting : Setting) : String :=
  "      --" ++ setting.name ++ " <" ++ setting.name.map Char.toUpper ++ ">\n"

/-- One line of the help page for an option without a value. -/
def switchLine (switch : Switch) : String :=
  "  -" ++ switch.letter.toString ++ ", --" ++ switch.name ++ "\n"

/-- The help page. -/
def helpText : String :=
  usageText ++ "\nOptions:\n" ++ String.join (Setting.all.map settingLine) ++
    String.join (Switch.all.map switchLine)

/-- What is said about a command line that is not carried out. -/
def usageMessage : UsageError → String
  | .rejectedValue detail => "error: " ++ detail ++ "\n\n" ++ usageText
  | .missingRequired => "error: the option --java_module is required\n\n" ++ usageText
  | _ => "error: the command line cannot be understood\n\n" ++ usageText

/-- What comes of a command line that is not carried out. -/
def refuse (error : UsageError) (files : FileTree) : Outcome :=
  match error with
  | .help => ⟨error.exitStatus, helpText, "", files⟩
  | .version => ⟨error.exitStatus, versionText, "", files⟩
  | _ => ⟨error.exitStatus, "", usageMessage error, files⟩

/-- One invocation of the program with the given arguments. -/
def run (env : Environment) (terminal : Terminal) (arguments : List String)
    (files : FileTree) : Outcome :=
  match CommandLine.parse arguments with
  | .ok arguments => carryOut env terminal arguments files
  | .error error => refuse error files

end BridgeSetup.Program
