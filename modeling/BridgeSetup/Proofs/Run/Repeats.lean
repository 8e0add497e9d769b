import BridgeSetup.Proofs.FileTree.Overlay
import BridgeSetup.Proofs.Run.Tasks

/-!
# Repeating a step

A step that has succeeded leaves files behind, and its repetition meets them. `Repeats` is the
record that a step has been taken and can be taken again: whatever has been added in between,
the repetition comes to the same result and lays the same overlay over the files, as long as
what the step reads is still there.

Of two steps the second reads what the first has left. That does no harm when both are
repeated, because the repetition of the first leaves the same files once more
(`Repeats.bind`).
-/

namespace BridgeSetup.Task

open FileTree (Lays Overlay Relays)

variable {ε α β : Type}

/-- A step has been taken with a result and has laid an overlay over the files, at places of
the given paths. When files have been added and the given locations hold again what they held
then, the step can be taken again, with the same result and the same overlay. -/
structure Repeats (env : Environment) (reads : Location → Prop) (paths : Path → Prop)
    (task : Task ε α) (value : α) (before after : Session) (overlay : Overlay) : Prop where
  lays : Lays env.LogsAt overlay before.files after.files
  placed : ∀ location, overlay location ≠ none → ∃ path, paths path ∧
    after.files.Targets env.workingDirectory path location
  again : ∀ later : Session, after.files.Grows later.files →
    (∀ location, reads location →
      later.files.fileAt? location = before.files.fileAt? location) →
    ∃ last, task.runOn later = (.ok value, last) ∧
      Relays env.LogsAt overlay later.files last.files

namespace Repeats

variable {env : Environment} {reads : Location → Prop} {paths : Path → Prop}
  {task : Task ε α} {next : α → Task ε β} {value : α} {result : β}
  {before middle after session : Session} {first second : Overlay}

/-- A step that only says something can be taken again when it comes to the same result. -/
theorem of_alike (logged : before.files.Alike env.LogsAt after.files)
    (again : ∀ later : Session, after.files.Grows later.files →
      (∀ location, reads location →
        later.files.fileAt? location = before.files.fileAt? location) →
      ∃ last, task.runOn later = (.ok value, last) ∧
        later.files.Alike env.LogsAt last.files) :
    Repeats env reads paths task value before after .blank := by
  refine ⟨.of_alike logged, fun location covered => absurd rfl covered, ?_⟩
  intro later grows same
  rcases again later grows same with ⟨last, run, alike⟩
  exact ⟨last, run, .of_alike alike⟩

theorem pure : Repeats env reads paths (Pure.pure value : Task ε α) value session session .blank :=
  .of_alike (.refl session.files) fun later _ _ => ⟨later, rfl, .refl later.files⟩

theorem say (level : Level) (message : String) :
    Repeats env reads paths (Task.say env level message : Task ε Unit) () session
      (session.record env ⟨level, message⟩) .blank :=
  .of_alike (session.record_alike env _) fun later _ _ =>
    ⟨later.record env ⟨level, message⟩, rfl, later.record_alike env _⟩

theorem mono {reads' : Location → Prop} {overlay : Overlay}
    (repeats : Repeats env reads paths task value before after overlay)
    (within : ∀ location, reads location → reads' location) :
    Repeats env reads' paths task value before after overlay :=
  ⟨repeats.lays, repeats.placed, fun later grows same =>
    repeats.again later grows fun location read => same location (within location read)⟩

/-- Two steps can be taken again when each of them can. -/
theorem bind (quiet : ∀ location, reads location → ¬ env.LogsAt location)
    (earlier : Repeats env reads paths task value before middle first)
    (later : Repeats env reads paths (next value) result middle after second) :
    Repeats env reads paths (task >>= next) result before after (first.andThen second) := by
  refine ⟨earlier.lays.trans later.lays, ?_, ?_⟩
  · intro location covered
    rw [ne_eq, Overlay.andThen_eq_none_iff, not_and_or] at covered
    rcases covered with covered | covered
    · rcases earlier.placed location covered with ⟨path, named, targets⟩
      exact ⟨path, named, targets.grow later.lays.grows⟩
    · exact later.placed location covered
  · intro start grows same
    rcases earlier.again start (later.lays.grows.trans grows) same with ⟨left, run, relays⟩
    -- What the second step reads is what the first one leaves, as it was the first time.
    have sameAgain : ∀ location, reads location →
        left.files.fileAt? location = middle.files.fileAt? location := by
      intro location read
      exact earlier.lays.fileAt_eq relays (quiet location read) (same location read)
    rcases later.again left (grows.trans relays.grows) sameAgain with ⟨last, runAgain, relaysAgain⟩
    exact ⟨last, by rw [runOn_bind_of_ok run, runAgain], relays.trans relaysAgain⟩

end Repeats

end BridgeSetup.Task
