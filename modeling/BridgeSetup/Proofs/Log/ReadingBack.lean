import BridgeSetup.Log.Logger
import Mathlib.Logic.Function.Basic

/-!
# Reading the log back

A log line is text, and the level of its message is the word that it starts with. A message may
start with the name of a level as well, but no name of a level followed by a space begins another
one (`lead_isPrefix_iff`), so a line is read back at the level at which it was logged and at no
other (`messageAt?_line`).

The lines of a log are therefore woven from one queue of messages for each level. Reading the
lines back is the only way to take such a weave apart (`woven_lines_iff`), and together with what
the log keeps of the messages that are offered to it (`entries_logAll`) this says what comes of a
sequence of log calls (`logAll_readsBack`).
-/

namespace BridgeSetup

namespace Entry

variable {level : Level}

theorem toList_line (entry : Entry) :
    entry.line.toList = (entry.level.name ++ " ").toList ++ entry.message.toList := by
  simp [line]

/-- A message cannot make its line look like one of another level. -/
theorem lead_isPrefix_iff {entry : Entry} :
    (level.name ++ " ").toList <+: entry.line.toList ↔ entry.level = level := by
  constructor
  · intro leads
    rw [toList_line] at leads
    -- The first letters of the names are different, so the rest of the line is not looked at.
    cases level <;> cases atLevel : entry.level <;> simp_all [Level.name]
  · rintro rfl
    rw [toList_line]
    apply List.prefix_append

end Entry

namespace Logger

variable {level : Level}

theorem messageAt?_line (entry : Entry) :
    messageAt? level entry.line = if entry.level = level then some entry.message else none := by
  unfold messageAt?
  simp only [List.isPrefixOf_iff_prefix, Entry.lead_isPrefix_iff]
  split
  · next same =>
      subst same
      rw [Entry.toList_line, List.drop_left, String.ofList_toList]
  · rfl

/-! ## What the log keeps -/

section Keeping

variable (logger : Logger)

theorem minimum_log (entry : Entry) : (logger.log entry).minimum = logger.minimum := by
  unfold log
  split <;> rfl

theorem logAll_append (first second : List Entry) :
    logger.logAll (first ++ second) = (logger.logAll first).logAll second :=
  List.foldl_append

/-- A logger keeps the messages that it accepts, in the order in which they are offered. -/
theorem entries_logAll (entries : List Entry) :
    (logger.logAll entries).entries =
      logger.entries ++ entries.filter (logger.enabled ·.level) := by
  induction entries generalizing logger with
  | nil => simp [logAll]
  | cons entry rest ih =>
      -- A message adds to the entries and leaves what is accepted as it is.
      have accepted (level : Level) : (logger.log entry).enabled level = logger.enabled level := by
        simp only [enabled, minimum_log]
      have rests := ih (logger.log entry)
      simp only [accepted] at rests
      rw [logAll, List.foldl_cons, ← logAll, rests]
      by_cases kept : logger.enabled entry.level = true
      · simp [log, kept]
      · simp [log, kept]

theorem atLevel_eq (level : Level) :
    logger.atLevel level = (logger.entries.filter (·.level = level)).map Entry.message := by
  unfold atLevel lines
  induction logger.entries with
  | nil => rfl
  | cons entry rest ih =>
      by_cases here : entry.level = level
      · simp [messageAt?_line, here, ih]
      · simp [messageAt?_line, here, ih]

end Keeping

/-! ## Lines as a weave of the levels -/

/-- The lines are woven from a queue of messages for each level: every line is the first message
of a queue, behind the name of the queue's level, and in the end all queues are used up. -/
inductive Woven : (Level → List String) → List String → Prop
  | done : Woven (fun _ => []) []
  | take {queues : Level → List String} {lines : List String} (level : Level) (message : String)
      (rest : Woven queues lines) :
      Woven (Function.update queues level (message :: queues level))
        (Entry.line ⟨level, message⟩ :: lines)

/-- A weave is taken apart by reading its lines. -/
theorem Woven.queues_eq {queues : Level → List String} {lines : List String}
    (woven : Woven queues lines) : queues = fun level => lines.filterMap (messageAt? level) := by
  funext level
  induction woven with
  | done => rfl
  | take here message rest ih =>
      by_cases same : level = here
      · subst same
        simp [messageAt?_line, ih]
      · simp [messageAt?_line, ih, same, Ne.symm same]

theorem woven_lines (logger : Logger) : Woven logger.atLevel logger.lines := by
  rcases logger with ⟨minimum, entries⟩
  induction entries with
  | nil => exact .done
  | cons entry rest ih =>
      have first : atLevel ⟨minimum, entry :: rest⟩ =
          Function.update (atLevel ⟨minimum, rest⟩) entry.level
            (entry.message :: atLevel ⟨minimum, rest⟩ entry.level) := by
        funext level
        by_cases same : level = entry.level
        · subst same
          simp [atLevel_eq]
        · simp [atLevel_eq, same, Ne.symm same]
      rw [first]
      exact .take entry.level entry.message ih

theorem woven_lines_iff {logger : Logger} {queues : Level → List String} :
    Woven queues logger.lines ↔ queues = logger.atLevel := by
  constructor
  · intro woven
    exact woven.queues_eq
  · rintro rfl
    exact woven_lines logger

/-! ## A sequence of log calls -/

/-- What is read back from a log with a minimum level after a sequence of calls. -/
structure ReadsBack (minimum : Level) (calls : List Entry) (logger : Logger) : Prop where
  enabled : ∀ level, minimum ≤ level →
    logger.atLevel level = (calls.filter (·.level = level)).map Entry.message
  disabled : ∀ level, ¬ minimum ≤ level → logger.atLevel level = []
  lines : logger.lines = (calls.filter (minimum ≤ ·.level)).map Entry.line
  weave : ∀ queues, Woven queues logger.lines ↔ queues = logger.atLevel

/-- The messages of an enabled level are read back as they were logged, those of any other level
leave no trace, and the lines are the accepted messages in the order of the calls, which no other
queues of messages could have been woven into. -/
theorem logAll_readsBack (minimum : Level) (calls : List Entry) :
    ReadsBack minimum calls ((empty minimum).logAll calls) := by
  have kept : ((empty minimum).logAll calls).entries = calls.filter (minimum ≤ ·.level) := by
    rw [entries_logAll]
    rfl
  constructor
  · intro level enabled
    rw [atLevel_eq, kept, List.filter_filter]
    congr 1
    apply List.filter_congr
    intro entry _
    by_cases here : entry.level = level
    · simp [here, enabled]
    · simp [here]
  · intro level disabled
    rw [atLevel_eq, kept, List.filter_filter, List.map_eq_nil_iff, List.filter_eq_nil_iff]
    intro entry _
    by_cases here : entry.level = level
    · simp [here, disabled]
    · simp [here]
  · rw [Logger.lines, kept]
  · intro queues
    exact woven_lines_iff

end Logger

end BridgeSetup
