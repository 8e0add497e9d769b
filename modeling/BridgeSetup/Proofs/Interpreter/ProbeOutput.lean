import BridgeSetup.Interpreter.Runtime
import BridgeSetup.Proofs.Text.FilledLines

/-!
# The format of a probe's output

A probe reports four fields, one on a line, and the last one is the width of a pointer. The
reader takes the lines of the output as they end with a line feed or a carriage return and a
line feed, but the filled lines are the same as those between line feeds alone
(`probeLines_eq`), so its format is the grammar of fields on lines with four fields: nothing else
is accepted, and all that the grammar admits is (`ofProbeOutput_reads`).
-/

namespace BridgeSetup.Runtime

open Text (filledLines IsField Written)

theorem filled_endedLines (lines : List (List Char)) :
    ((Text.endedLines lines).map (Text.trim ∘ String.ofList)).filter (· ≠ "") =
      (lines.map (Text.trim ∘ String.ofList)).filter (· ≠ "") := by
  fun_induction Text.endedLines lines with
  | case1 => rfl
  | case2 last empty =>
      rw [List.isEmpty_iff] at empty
      subst empty
      rfl
  | case3 => rfl
  | case4 line next rest ih =>
      have returned : Text.trim (String.ofList (Text.dropReturn line)) =
          Text.trim (String.ofList line) := by
        unfold Text.dropReturn
        split
        · next front ends =>
          have parts : line = front.reverse ++ ['\r'] := by
            rw [List.reverse_eq_iff] at ends
            simpa using ends
          rw [parts, Text.trim_append_white Text.isWhite_return]
        · rfl
      simp only [List.map_cons, List.filter_cons, Function.comp_apply, returned] at ih ⊢
      rw [ih]

theorem probeLines_eq (output : String) : probeLines output = filledLines output := by
  have filled := filled_endedLines (Text.pieces '\n' output.toList)
  simpa [probeLines, filledLines, Text.lines, Text.splitAt] using filled

/-- A width that a probe may report. -/
def IsWidth (bits : Nat) : Prop :=
  bits = 32 ∨ bits = 64

theorem pointerBits?_eq_some_iff {text : String} {width : Nat} :
    pointerBits? text = some width ↔ text = toString width ∧ IsWidth width := by
  constructor
  · intro read
    unfold pointerBits? at read
    split at read
    · cases read
      exact ⟨by decide, Or.inl rfl⟩
    · cases read
      exact ⟨by decide, Or.inr rfl⟩
    · cases read
  · rintro ⟨rfl, rfl | rfl⟩
    · decide
    · decide

/-- What a probe reports about an interpreter. -/
def fields (runtime : Runtime) : List String :=
  [runtime.platform, runtime.version, runtime.machine, toString runtime.bits]

/-- What reading a probe's output comes to. -/
structure Reads (executable : Path) (output : String) (result : Except DiscoveryError Runtime) :
    Prop where
  succeeds_iff : (∃ runtime, result = .ok runtime) ↔
    ∃ platform version machine bits,
      filledLines output = [platform, version, machine, bits] ∧ (bits = "32" ∨ bits = "64")
  described : ∀ runtime, result = .ok runtime →
    filledLines output = runtime.fields ∧ (∀ field ∈ runtime.fields, IsField field) ∧
      IsWidth runtime.bits ∧ runtime.executable = executable
  accepts : ∀ runtime : Runtime, Written runtime.fields output.toList → IsWidth runtime.bits →
    runtime.executable = executable → result = .ok runtime
  miscounted : (filledLines output).length ≠ 4 →
    result = .error (.malformedProbe
      ("expected 4 lines, got " ++ toString (filledLines output).length))
  misfit : ∀ platform version machine bits,
    filledLines output = [platform, version, machine, bits] → bits ≠ "32" → bits ≠ "64" →
      result = .error (.malformedProbe ("pointer width '" ++ bits ++ "'"))

section Reading

variable {executable : Path} {output : String}

theorem ofProbeOutput_of_filled {platform version machine bits : String}
    (lines : filledLines output = [platform, version, machine, bits]) :
    ofProbeOutput executable output =
      match pointerBits? bits with
      | some width => .ok ⟨executable, platform, version, machine, width⟩
      | none => .error (.malformedProbe ("pointer width '" ++ bits ++ "'")) := by
  rcases found : pointerBits? bits with _ | width
  · simp [ofProbeOutput, probeLines_eq, lines, found]
  · simp [ofProbeOutput, probeLines_eq, lines, found]

theorem ofProbeOutput_of_miscounted (count : (filledLines output).length ≠ 4) :
    ofProbeOutput executable output = .error (.malformedProbe
      ("expected 4 lines, got " ++ toString (filledLines output).length)) := by
  simp only [ofProbeOutput, probeLines_eq]
  split
  · next lines => simp [lines] at count
  · rfl

theorem ofProbeOutput_eq_ok_iff {runtime : Runtime} :
    ofProbeOutput executable output = .ok runtime ↔
      filledLines output = runtime.fields ∧ IsWidth runtime.bits ∧
        runtime.executable = executable := by
  constructor
  · intro read
    unfold ofProbeOutput at read
    rw [probeLines_eq] at read
    split at read
    · next platform version machine bits lines =>
      split at read
      · next width found =>
        cases read
        rcases pointerBits?_eq_some_iff.mp found with ⟨rfl, proper⟩
        exact ⟨lines, proper, rfl⟩
      · cases read
    · cases read
  · rintro ⟨lines, proper, rfl⟩
    rw [ofProbeOutput_of_filled lines, pointerBits?_eq_some_iff.mpr ⟨rfl, proper⟩]

end Reading

/-- A probe's output is accepted exactly if it carries four fields of which the last is a width,
however they are laid out, and otherwise it is told what is wrong with it. -/
theorem ofProbeOutput_reads (executable : Path) (output : String) :
    Reads executable output (ofProbeOutput executable output) := by
  constructor
  · constructor
    · rintro ⟨runtime, read⟩
      rcases ofProbeOutput_eq_ok_iff.mp read with ⟨lines, width, _⟩
      refine ⟨_, _, _, _, lines, ?_⟩
      rcases width with bits | bits
      · exact Or.inl (congrArg toString bits)
      · exact Or.inr (congrArg toString bits)
    · rintro ⟨platform, version, machine, bits, lines, rfl | rfl⟩
      · exact ⟨_, ofProbeOutput_of_filled lines⟩
      · exact ⟨_, ofProbeOutput_of_filled lines⟩
  · intro runtime read
    rcases ofProbeOutput_eq_ok_iff.mp read with ⟨lines, width, same⟩
    have written := Text.filledLines_eq_iff.mp lines
    exact ⟨lines, written.isField, width, same⟩
  · intro runtime written width same
    exact ofProbeOutput_eq_ok_iff.mpr ⟨Text.filledLines_eq_iff.mpr written, width, same⟩
  · exact ofProbeOutput_of_miscounted
  · intro platform version machine bits lines notNarrow notWide
    rw [ofProbeOutput_of_filled lines]
    rcases found : pointerBits? bits with _ | width
    · rfl
    · rcases pointerBits?_eq_some_iff.mp found with ⟨rfl, rfl | rfl⟩
      · exact absurd rfl notNarrow
      · exact absurd rfl notWide

end BridgeSetup.Runtime
