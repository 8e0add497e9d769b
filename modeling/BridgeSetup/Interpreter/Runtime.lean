import BridgeSetup.Interpreter.Error

/-!
# Probed interpreters

What a setup run needs to know about the interpreter that will host the bridge, and the
format in which the probe reports it: four lines that are not blank, with the platform
tag, the version, the machine and the width of a pointer. White space around a line does
not count, and neither do blank lines.
-/

namespace BridgeSetup

/-- A probed interpreter. -/
structure Runtime where
  executable : Path
  /-- The tag of the platform that it was built for, as in `linux-x86_64`. -/
  platform : String
  /-- Its version, as in `3.10`. -/
  version : String
  /-- The machine that it runs on, as in `x86_64`. -/
  machine : String
  /-- The width of a pointer in bits. -/
  bits : Nat
  deriving DecidableEq, Repr

namespace Runtime

/-- Whether pointers have 64 bits. -/
def is64Bit (runtime : Runtime) : Bool :=
  runtime.bits = 64

/-- The lines of a probe's output that are not blank, without white space around them. -/
def probeLines (output : String) : List String :=
  ((Text.lines output).map Text.trim).filter (· ≠ "")

/-- The width of a pointer that a probe reports. -/
def pointerBits? : String → Option Nat
  | "32" => some 32
  | "64" => some 64
  | _ => none

/-- The interpreter that a probe's output describes. -/
def ofProbeOutput (executable : Path) (output : String) : Except DiscoveryError Runtime :=
  match probeLines output with
  | [platform, version, machine, bits] =>
    match pointerBits? bits with
    | some width => .ok ⟨executable, platform, version, machine, width⟩
    | none => .error (.malformedProbe ("pointer width '" ++ bits ++ "'"))
  | lines => .error (.malformedProbe ("expected 4 lines, got " ++ toString lines.length))

end Runtime

end BridgeSetup
