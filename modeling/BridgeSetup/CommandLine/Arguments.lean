import BridgeSetup.Log.Level
import BridgeSetup.Path.Basic

/-!
# The options of the command line

Which options there are, how they may be spelled, and what a complete command line says.
Long names are written with underscores; the same names with hyphens are accepted too.
-/

namespace BridgeSetup.CommandLine

/-- An option that takes a value. -/
inductive Setting where
  | snapHome
  | reqArch
  | javaModule
  | javaHome
  | python
  | installDir
  | logFile
  | logLevel
  deriving DecidableEq, Repr

/-- An option without a value. -/
inductive Switch where
  | reqJava
  | reqPython
  | force
  | help
  | version
  deriving DecidableEq, Repr

/-- What an option name stands for. -/
inductive Key where
  | setting (setting : Setting)
  | switch (switch : Switch)
  deriving DecidableEq, Repr

/-- The name of an option that takes a value. -/
def Setting.name : Setting → String
  | snapHome => "snap_home"
  | reqArch => "req_arch"
  | javaModule => "java_module"
  | javaHome => "java_home"
  | python => "python"
  | installDir => "install_dir"
  | logFile => "log_file"
  | logLevel => "log_level"

/-- The long name of an option without a value. -/
def Switch.name : Switch → String
  | reqJava => "req_java"
  | reqPython => "req_py"
  | force => "force"
  | help => "help"
  | version => "version"

/-- The short name of an option without a value. -/
def Switch.letter : Switch → Char
  | reqJava => 'j'
  | reqPython => 'p'
  | force => 'f'
  | help => 'h'
  | version => 'V'

/-- Every option that takes a value. -/
def Setting.all : List Setting :=
  [snapHome, reqArch, javaModule, javaHome, python, installDir, logFile, logLevel]

/-- Every option without a value. -/
def Switch.all : List Switch := [reqJava, reqPython, force, help, version]

/-- The long name of an option. -/
def Key.name : Key → String
  | .setting known => known.name
  | .switch known => known.name

/-- Every option. -/
def Key.all : List Key :=
  Setting.all.map .setting ++ Switch.all.map .switch

/-- A name with hyphens in place of underscores. -/
def hyphenated (name : String) : String :=
  name.map fun c => if c = '_' then '-' else c

/-- The option with a long name, in either spelling. -/
def Key.ofName? (name : String) : Option Key :=
  Key.all.find? fun key => key.name = name || hyphenated key.name = name

/-- The option with a short name. -/
def Switch.ofLetter? (letter : Char) : Option Switch :=
  Switch.all.find? (·.letter = letter)

/-- What a complete command line says. -/
structure Arguments where
  snapHome : Option String
  reqArch : Option String
  javaModule : Path
  javaHome : Option Path
  python : Option Path
  installDir : Option Path
  logFile : Option Path
  logLevel : Level
  reqJava : Bool
  reqPython : Bool
  force : Bool
  deriving DecidableEq, Repr

end BridgeSetup.CommandLine
