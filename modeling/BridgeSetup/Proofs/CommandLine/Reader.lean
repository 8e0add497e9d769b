import BridgeSetup.Proofs.CommandLine.Drafts

/-!
# The reader follows the grammar

The reader checks a value only when the next option has been recognized, so that its draft can be
in three states: nothing is pending, an option waits for its value, or an option holds a value
that is not checked. The grammar is extended to what may follow in each of them (`Continues`), and
for every sequence of words without a double hyphen the reader makes of it what the grammar makes
of it, whatever is pending (`Follows`).

The reader therefore accepts exactly the command lines of the grammar whose options are accepted,
and says what these say (`parse_eq_ok_iff`).
-/

namespace BridgeSetup.CommandLine

namespace Draft

/-! ## What may follow -/

/-- The draft after several words, with nothing left to check. -/
def finish (draft : Draft) (words : List Word) : Except UsageError Draft :=
  words.foldlM readWord draft >>= settle

theorem finish_cons (draft : Draft) (word : Word) (words : List Word) :
    draft.finish (word :: words) = draft.readWord word >>= fun next => next.finish words := by
  simp only [finish, List.foldlM_cons, bind_assoc]

end Draft

/-- The rest of a command line and what it gives together with what is pending before it. -/
inductive Continues : Option (Setting × Option String) → List Word → List Given → Prop
  | idle {words : List Word} {given : List Given} (rest : Reads words given) :
      Continues none words given
  | waiting {setting : Setting} {text : String} {words : List Word} {given : List Given}
      (rest : Reads words given) :
      Continues (some (setting, none)) (.plain text :: words) (.value setting text :: given)
  | holding {setting : Setting} {text : String} {words : List Word} {given : List Given}
      (rest : Reads words given) :
      Continues (some (setting, some text)) words (.value setting text :: given)

namespace Draft

/-- Where no value follows, what is pending is added first. -/
theorem continues_iff {draft final : Draft} {words : List Word}
    (opens : Opens words) :
    (∃ given, Continues draft.pending words given ∧
      given.foldlM add { draft with pending := none } = .ok final) ↔
    ∃ settled, draft.settle = .ok settled ∧
      ∃ given, Reads words given ∧ given.foldlM add settled = .ok final := by
  rcases draft with ⟨values, switches, _ | ⟨setting, _ | text⟩, closed⟩
  · constructor
    · rintro ⟨given, continues, run⟩
      cases continues with
      | idle rest => exact ⟨_, rfl, given, rest, run⟩
    · rintro ⟨_, checked, given, rest, run⟩
      cases checked
      exact ⟨given, .idle rest, run⟩
  · constructor
    · rintro ⟨given, continues, run⟩
      cases continues with
      | waiting rest => exact absurd rfl (opens _)
    · rintro ⟨_, checked, _⟩
      cases checked
  · constructor
    · rintro ⟨given, continues, run⟩
      cases continues with
      | holding rest =>
          rcases bind_eq_ok.mp run with ⟨settled, added, following⟩
          exact ⟨settled, added, _, rest, following⟩
    · rintro ⟨settled, checked, given, rest, run⟩
      exact ⟨_, .holding rest, bind_eq_ok.mpr ⟨settled, checked, run⟩⟩

/-! ## One word after the other -/

theorem readLetters_eq_ok_iff {draft final : Draft} {letters : List Char} :
    draft.readLetters letters = .ok final ↔
      ∃ switches : List Switch, letters = switches.map Switch.letter ∧
        (switches.map Given.switch).foldlM add draft = .ok final := by
  induction letters generalizing draft with
  | nil =>
      constructor
      · intro read
        exact ⟨[], rfl, read⟩
      · rintro ⟨switches, spelled, run⟩
        rw [List.map_eq_nil_iff.mp spelled.symm] at run
        exact run
  | cons letter rest ih =>
      constructor
      · intro read
        unfold readLetters at read
        split at read
        · cases read
        · next switch known =>
            rcases bind_eq_ok.mp read with ⟨next, turned, later⟩
            rcases ih.mp later with ⟨switches, spelled, run⟩
            refine ⟨switch :: switches, ?_, bind_eq_ok.mpr ⟨next, turned, run⟩⟩
            rw [List.map_cons, ofLetter?_eq_some_iff.mp known, ← spelled]
      · rintro ⟨_ | ⟨switch, switches⟩, spelled, run⟩
        · cases spelled
        · rcases List.cons_eq_cons.mp spelled with ⟨rfl, others⟩
          rcases bind_eq_ok.mp run with ⟨next, turned, later⟩
          simp only [readLetters, ofLetter?_eq_some_iff.mpr rfl]
          exact bind_eq_ok.mpr ⟨next, turned, ih.mpr ⟨switches, others, later⟩⟩

theorem foldlM_add_idle {draft left : Draft} {given : List Given} (idle : draft.pending = none)
    (added : given.foldlM add draft = .ok left) :
    left.pending = none ∧ left.closed = draft.closed := by
  induction given generalizing draft with
  | nil =>
      cases added
      exact ⟨idle, rfl⟩
  | cons option rest ih =>
      rcases bind_eq_ok.mp added with ⟨next, first, later⟩
      rcases add_idle idle first with ⟨nextIdle, nextClosed⟩
      rcases ih nextIdle later with ⟨leftIdle, leftClosed⟩
      exact ⟨leftIdle, leftClosed.trans nextClosed⟩

/-- Whatever is pending, the reader makes of these words what the grammar makes of them. -/
def Follows (words : List Word) : Prop :=
  ∀ draft final : Draft, draft.closed = false →
    (draft.finish words = .ok final ↔ ∃ given, Continues draft.pending words given ∧
      given.foldlM add { draft with pending := none } = .ok final)

theorem Follows.nil : Follows [] := by
  intro draft final _
  rw [continues_iff (by simp [Opens])]
  constructor
  · intro settled
    exact ⟨final, settled, [], .done, rfl⟩
  · rintro ⟨settled, checked, given, rest, run⟩
    cases rest
    cases run
    exact checked

theorem Follows.plain {words : List Word} (follows : Follows words) (text : String) :
    Follows (.plain text :: words) := by
  rintro ⟨values, switches, _ | ⟨setting, _ | held⟩, closed⟩ final opened
  · constructor
    · intro read
      cases read
    · rintro ⟨given, continues, run⟩
      cases continues with
      | idle rest => cases rest
  · -- The value is held back, and the grammar goes on with it.
    rw [finish_cons]
    simp only [readWord, readPlain, ok_bind]
    rw [follows ⟨values, switches, some (setting, some text), closed⟩ final opened]
    constructor
    · rintro ⟨given, continues, run⟩
      cases continues with
      | holding rest => exact ⟨_, .waiting rest, run⟩
    · rintro ⟨given, continues, run⟩
      cases continues with
      | waiting rest => exact ⟨_, .holding rest, run⟩
  · constructor
    · intro read
      cases read
    · rintro ⟨given, continues, run⟩
      cases continues with
      | holding rest => cases rest

/-- Where nothing is pending after an option, the rest is a command line of its own. -/
theorem Follows.of_idle {words : List Word} (follows : Follows words) {draft final : Draft}
    (idle : draft.pending = none) (opened : draft.closed = false) :
    draft.finish words = .ok final ↔
      ∃ given, Reads words given ∧ given.foldlM add draft = .ok final := by
  rcases draft with ⟨values, switches, pending, closed⟩
  cases idle
  rw [follows _ _ opened]
  constructor
  · rintro ⟨given, continues, run⟩
    cases continues with
    | idle rest => exact ⟨given, rest, run⟩
  · rintro ⟨given, rest, run⟩
    exact ⟨given, .idle rest, run⟩

/-- For an option it is enough to follow the grammar where nothing is pending. -/
theorem Follows.of_settled {word : Word} {words : List Word} (option : word.IsOption)
    (settles : ∀ draft final : Draft, draft.pending = none → draft.closed = false →
      ((∃ next, draft.readWord word = .ok next ∧ next.finish words = .ok final) ↔
        ∃ given, Reads (word :: words) given ∧ given.foldlM add draft = .ok final)) :
    Follows (word :: words) := by
  intro draft final opened
  rw [continues_iff (option.opens words), finish_cons, bind_eq_ok]
  constructor
  · rintro ⟨next, read, later⟩
    rcases (readWord_eq_ok_iff option).mp read with ⟨settled, checked, first⟩
    rcases settle_idle checked with ⟨idle, closed⟩
    exact ⟨settled, checked, (settles _ _ idle (closed.trans opened)).mp ⟨next, first, later⟩⟩
  · rintro ⟨settled, checked, given⟩
    rcases settle_idle checked with ⟨idle, closed⟩
    rcases (settles _ _ idle (closed.trans opened)).mpr given with ⟨next, first, later⟩
    exact ⟨next, (readWord_eq_ok_iff option).mpr ⟨settled, checked, first⟩, later⟩

section Options

variable {word : Word} {words : List Word}

/-- A word that the reader refuses and the grammar does not have. -/
theorem Follows.refused (option : word.IsOption) (unread : ∀ given, ¬ Reads (word :: words) given)
    (refused : ∀ draft next : Draft, draft.readWord word ≠ .ok next) :
    Follows (word :: words) := by
  apply Follows.of_settled option
  intro draft final _ _
  constructor
  · rintro ⟨next, read, _⟩
    exact absurd read (refused draft next)
  · rintro ⟨given, reads, _⟩
    exact absurd reads (unread given)

/-- A word that gives the same options whatever follows it, and after which nothing is pending. -/
theorem Follows.of_gives (follows : Follows words) (option : word.IsOption) (gives : List Given)
    (reads : ∀ given, Reads (word :: words) given ↔
      ∃ later, given = gives ++ later ∧ Reads words later)
    (adds : ∀ draft next : Draft, draft.pending = none →
      (draft.readWord word = .ok next ↔ gives.foldlM add draft = .ok next)) :
    Follows (word :: words) := by
  apply Follows.of_settled option
  intro draft final idle opened
  constructor
  · rintro ⟨next, read, later⟩
    have added := (adds draft next idle).mp read
    rcases foldlM_add_idle idle added with ⟨nextIdle, nextClosed⟩
    rcases (follows.of_idle nextIdle (nextClosed.trans opened)).mp later with ⟨given, rest, run⟩
    refine ⟨gives ++ given, (reads _).mpr ⟨given, rfl, rest⟩, ?_⟩
    rw [List.foldlM_append, added]
    exact run
  · rintro ⟨given, whole, run⟩
    rcases (reads _).mp whole with ⟨later, rfl, rest⟩
    rw [List.foldlM_append] at run
    rcases bind_eq_ok.mp run with ⟨next, added, following⟩
    rcases foldlM_add_idle idle added with ⟨nextIdle, nextClosed⟩
    exact ⟨next, (adds draft next idle).mpr added,
      (follows.of_idle nextIdle (nextClosed.trans opened)).mpr ⟨later, rest, following⟩⟩

theorem Follows.letters (follows : Follows words) (first : Char) (others : List Char) :
    Follows (.letters first others :: words) := by
  by_cases known : ∃ switches : List Switch, first :: others = switches.map Switch.letter
  · rcases known with ⟨switches, spelled⟩
    apply follows.of_gives (.letters first others) (switches.map .switch)
    · intro given
      exact reads_letters_iff spelled
    · intro draft next _
      simp only [readWord, readLetters_eq_ok_iff]
      constructor
      · rintro ⟨same, again, run⟩
        rwa [letters_inj.mp (again.symm.trans spelled)] at run
      · intro run
        exact ⟨switches, spelled, run⟩
  · apply Follows.refused (.letters first others)
    · intro given reads
      cases reads with
      | letters spelled rest => exact known ⟨_, spelled⟩
    · intro draft next read
      rcases readLetters_eq_ok_iff.mp read with ⟨switches, spelled, _⟩
      exact known ⟨switches, spelled⟩

theorem Follows.long_setting (follows : Follows words) {name : String} {setting : Setting}
    (names : Names name (.setting setting)) : Follows (.long name none :: words) := by
  apply Follows.of_settled (.long name none)
  intro draft final idle opened
  have begun : draft.readWord (.long name none) =
      .ok { draft with pending := some (setting, none) } := by
    simp only [readWord, readLong, ofName?_eq_some_iff.mpr names, settle_of_idle idle, ok_bind]
    rfl
  have whole : ({ draft with pending := none } : Draft) = draft := by
    rw [← idle]
  have waits := follows { draft with pending := some (setting, none) } final opened
  rw [whole] at waits
  constructor
  · rintro ⟨next, read, later⟩
    cases begun.symm.trans read
    rcases waits.mp later with ⟨given, continues, run⟩
    cases continues with
    | waiting rest => exact ⟨_, .apart names rest, run⟩
  · rintro ⟨given, reads, run⟩
    cases reads with
    | switch again rest => cases Names.unique again names
    | apart again rest =>
        cases Names.unique again names
        exact ⟨_, begun, waits.mpr ⟨_, .waiting rest, run⟩⟩

theorem Follows.long (follows : Follows words) (name : String) (value : Option String) :
    Follows (.long name value :: words) := by
  rcases known : Key.ofName? name with _ | setting | switch
  · apply Follows.refused (.long name value)
    · intro given reads
      rcases reads.named with ⟨key, names⟩
      simp [ofName?_eq_some_iff.mpr names] at known
    · intro draft next read
      simp [readWord, readLong, known] at read
  · have names := ofName?_eq_some_iff.mp known
    cases value with
    | none => exact follows.long_setting names
    | some text =>
        apply follows.of_gives (.long name _) [.value setting text]
        · intro given
          exact reads_attached_iff names
        · intro draft next idle
          simp [readWord, readLong, known, settle_of_idle idle, ok_bind, add]
  · have names := ofName?_eq_some_iff.mp known
    cases value with
    | none =>
        apply follows.of_gives (.long name _) [.switch switch]
        · intro given
          exact reads_switch_iff names
        · intro draft next _
          simp [readWord, readLong, known, add]
    | some text =>
        apply Follows.refused (.long name _)
        · intro given reads
          cases reads with
          | attached again rest => cases Names.unique again names
        · intro draft next read
          simp [readWord, readLong, known] at read

end Options

/-- Whatever is pending, the rest of a command line is read as the grammar has it. -/
theorem finish_follows {words : List Word} (unclosed : Word.close ∉ words) : Follows words := by
  induction words with
  | nil => exact .nil
  | cons word words ih =>
      simp only [List.mem_cons, not_or] at unclosed
      have follows := ih unclosed.2
      cases word with
      | plain text => exact follows.plain text
      | long name value => exact follows.long name value
      | letters first others => exact follows.letters first others
      | close => exact absurd rfl unclosed.1

/-! ## A whole command line -/

theorem readWord_closed {draft next : Draft} {word : Word} (unclosed : word ≠ .close)
    (read : draft.readWord word = .ok next) : next.closed = draft.closed := by
  cases word with
  | close => exact absurd rfl unclosed
  | plain text =>
      simp only [readWord, readPlain] at read
      split at read
      · cases read
        rfl
      · cases read
  | letters first rest =>
      rcases (readWord_eq_ok_iff (.letters first rest)).mp read with
        ⟨settled, checked, later⟩
      rcases settle_idle checked with ⟨idle, closed⟩
      rcases readLetters_eq_ok_iff.mp later with ⟨switches, _, turned⟩
      exact (foldlM_add_idle idle turned).2.trans closed
  | long name value =>
      rcases (readWord_eq_ok_iff (.long name value)).mp read with
        ⟨settled, checked, later⟩
      rcases settle_idle checked with ⟨idle, closed⟩
      rw [← closed]
      simp only [readWord, readLong, settle_of_idle idle, ok_bind] at later
      split at later
      · cases later
      · cases later
      · exact (@add_idle settled next (.switch _) idle later).2
      · exact (@add_idle settled next (.value _ _) idle later).2
      · cases later
        rfl

theorem readAll_eq {arguments : List String} (unclosed : "--" ∉ arguments) {draft : Draft}
    (opened : draft.closed = false) :
    draft.readAll arguments = (arguments.map Word.ofArgument).foldlM readWord draft := by
  induction arguments generalizing draft with
  | nil => rfl
  | cons argument rest ih =>
      simp only [List.mem_cons, not_or] at unclosed
      rw [readAll, List.map_cons, List.foldlM_cons, read_eq opened]
      rcases read : draft.readWord (.ofArgument argument) with error | next
      · rfl
      · have notClose : Word.ofArgument argument ≠ .close :=
          mt Word.ofArgument_eq_close_iff.mp (Ne.symm unclosed.1)
        exact ih unclosed.2 ((readWord_closed notClose read).trans opened)

theorem complete_eq (draft : Draft) : draft.complete = draft.settle >>= complete := by
  rcases settled : draft.settle with error | left
  · simp only [complete, settled]
    rfl
  · simp only [complete, settled, ok_bind, settle_of_idle (settle_idle settled).1]

end Draft

/-- Without a double hyphen, the reader accepts the command lines of the grammar whose options are
accepted, and says what they say. -/
theorem parse_eq_ok_iff {arguments : List String} (unclosed : "--" ∉ arguments)
    {result : Arguments} :
    parse arguments = .ok result ↔ ∃ given, Gives arguments given ∧ Means given result := by
  have noClose : Word.close ∉ arguments.map Word.ofArgument := by
    intro member
    rcases List.mem_map.mp member with ⟨argument, listed, closing⟩
    exact unclosed (Word.ofArgument_eq_close_iff.mp closing ▸ listed)
  have run : parse arguments =
      Draft.empty.finish (arguments.map Word.ofArgument) >>= Draft.complete := by
    have words := @Draft.readAll_eq arguments unclosed .empty rfl
    simp only [parse, Draft.finish, words, bind_assoc, ← Draft.complete_eq]
  have follows {final : Draft} :=
    @Draft.Follows.of_idle _ (Draft.finish_follows noClose) .empty final rfl rfl
  have adds {given : List Given} {final : Draft} :=
    @Draft.foldlM_add_eq_ok_iff [] given final .nil
  rw [run, bind_eq_ok]
  constructor
  · rintro ⟨final, finished, completed⟩
    rcases follows.mp finished with ⟨given, gives, run⟩
    rcases adds.mp run with ⟨accepted, rfl⟩
    exact ⟨given, gives, accepted, completed⟩
  · rintro ⟨given, gives, accepted, completed⟩
    exact ⟨_, follows.mpr ⟨given, gives, adds.mpr ⟨accepted, rfl⟩⟩, completed⟩

end BridgeSetup.CommandLine
