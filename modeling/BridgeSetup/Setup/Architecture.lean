import BridgeSetup.Run.Session
import BridgeSetup.Text.LowerCase

/-!
# The architecture check

The names of architectures differ between Java and Python, so a mismatch is only ever a
warning. Names are compared in lower case.
-/

namespace BridgeSetup.Architecture

/-- The names of architectures with 64 bits. -/
def wideNames : List String := ["amd64", "ia64", "x64", "x86_64"]

/-- What every warning starts with. -/
def warningStart : String := "architecture requirement possibly not met: "

/-- The warnings about a machine that may not meet the required architecture. -/
def warnings (required : Option String) (machine : String) (is64Bit : Bool) : List Entry :=
  match required with
  | none => []
  | some name =>
    let required := Text.lowerCase name
    let actual := Text.lowerCase machine
    (if required = actual then []
      else
        [⟨.warning,
          warningStart ++ "Python is " ++ actual ++ " but JVM requires " ++ required⟩]) ++
    (if is64Bit && !wideNames.contains required then
        [⟨.warning, warningStart ++ "Python is 64 bit but JVM requires " ++ required⟩]
      else [])

end BridgeSetup.Architecture
