import BridgeSetup.FileTree.Basic
import BridgeSetup.FileTree.Fault

/-!
# Refusals

What the operating system refuses is not visible in a file tree: who owns a file, which
file systems are mounted for reading only, how much space is left. It is a parameter,
`Refusals`, which says for each operation and each location whether it is refused, and with
which fault. Whether a regular file may be opened can depend on its permission bits, which a
program may have set itself. To look a path up is never refused: directories have no permission
bits.
-/

namespace BridgeSetup

/-- What the operating system refuses. -/
structure Refusals where
  /-- Why what is at a location cannot be opened for reading, where the regular file there, if
  there is one, has the given permission bits. -/
  read : Location → Option Nat → Option Fault
  /-- Why the regular file at a location, which has the given permission bits, cannot be opened
  for writing, or cannot be made if there is none. -/
  write : Location → Option Nat → Option Fault
  /-- Why the permission bits of the regular file at a location cannot be set. -/
  setMode : Location → Option Fault
  /-- Why no directory can be made at a location. -/
  makeDirectory : Location → Option Fault
  /-- How many bytes the regular file at a location can hold, and what is reported when there
  are more. -/
  space : Location → Option (Nat × Fault)

namespace Refusals

/-- Nothing is refused. -/
def none : Refusals where
  read _ _ := Option.none
  write _ _ := Option.none
  setMode _ := Option.none
  makeDirectory _ := Option.none
  space _ := Option.none

/-- Goes on unless something is refused. -/
def check : Option Fault → Except IoError Unit
  | .none => .ok ()
  | some fault => .error (.system fault)

variable (refusals : Refusals)

/-- The data that get into the file at a location. -/
def admitted (location : Location) (data : Bytes) : Bytes :=
  match refusals.space location with
  | .none => data
  | some (size, _) => data.take size

/-- Why some of the data do not get into the file at a location. -/
def overflow (location : Location) (data : Bytes) : Option Fault :=
  match refusals.space location with
  | .none => .none
  | some (size, fault) => if size < data.length then some fault else .none

@[simp]
theorem check_none : check .none = .ok () := rfl

@[simp]
theorem check_some (fault : Fault) : check (some fault) = .error (.system fault) := rfl

theorem admitted_isPrefix (location : Location) (data : Bytes) :
    refusals.admitted location data <+: data := by
  unfold admitted
  split
  · exact List.prefix_rfl
  · exact List.take_prefix _ data

/-- All of the data get in if nothing is reported. -/
theorem admitted_eq {refusals : Refusals} {location : Location} {data : Bytes}
    (fits : refusals.overflow location data = .none) : refusals.admitted location data = data := by
  unfold overflow at fits
  unfold admitted
  split
  · rfl
  · next size fault limited =>
      simp only [limited, ite_eq_right_iff, reduceCtorEq, imp_false, Nat.not_lt] at fits
      exact List.take_of_length_le fits

end Refusals

end BridgeSetup
