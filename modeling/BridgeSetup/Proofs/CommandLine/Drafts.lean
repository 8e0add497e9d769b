import BridgeSetup.Proofs.CommandLine.Grammar

/-!
# Drafts

A draft on which nothing is pending is a list of options in the order in which they were given
(`ofGiven`), and it takes one more of them if that is not given yet and can be a part of a command
line (`add_ofGiven_eq_ok_iff`). So options can be added to an empty draft one after the other
exactly if they are accepted together (`foldlM_add_eq_ok_iff`).

An option that is pending is checked before the next one is read (`readWord_eq_ok_iff`).

A draft that is complete is asked only for the value of each option and for the switches that are
set. As no option is given twice, the answers do not depend on the order (`complete_of_perm`).
-/

namespace BridgeSetup.CommandLine

section Results

variable {ε α β : Type} {result : Except ε α} {next : α → Except ε β}

theorem bind_eq_ok {value : β} :
    (result >>= next) = .ok value ↔ ∃ first, result = .ok first ∧ next first = .ok value := by
  cases result <;> simp [bind, Except.bind]

theorem ok_bind (value : α) : ((.ok value : Except ε α) >>= next) = next value := rfl

end Results

/-! ## Drafts of what is given -/

/-- The draft of a command line that gives these options, with nothing left to check. -/
def Draft.ofGiven (given : List Given) : Draft :=
  ⟨given.filterMap Given.value?, given.filterMap Given.switch?, none, false⟩

/-- Options that are accepted, and what a command line that gives them says. -/
structure Means (given : List Given) (result : Arguments) : Prop where
  accepted : Accepted given
  completed : (Draft.ofGiven given).complete = .ok result

namespace Draft

/-- The draft with one more option. -/
def add (draft : Draft) : Given → Except UsageError Draft
  | .value setting text => draft.give setting text
  | .switch switch => draft.turnOn switch

theorem isSome_value?_ofGiven {given : List Given} {setting : Setting} :
    ((ofGiven given).value? setting).isSome ↔ .setting setting ∈ given.map Given.key := by
  unfold value? ofGiven
  induction given with
  | nil => simp
  | cons option rest ih =>
      cases option with
      | value other text =>
          by_cases same : setting = other
          · simp [same]
          · have different : (setting == other) = false := by simpa using same
            simpa [same, List.lookup_cons, different] using ih
      | switch known => simpa using ih

theorem mem_switches_ofGiven {given : List Given} {switch : Switch} :
    switch ∈ (ofGiven given).switches ↔ .switch switch ∈ given.map Given.key := by
  unfold ofGiven
  induction given with
  | nil => simp
  | cons option rest ih =>
      cases option with
      | value setting text => simpa using ih
      | switch known => simp_all

theorem turnOn_eq {draft : Draft} {switch : Switch} (proper : switch ≠ .help ∧ switch ≠ .version) :
    draft.turnOn switch = draft.settle >>= fun draft =>
      if draft.switches.contains switch then .error .conflict
      else .ok { draft with switches := draft.switches ++ [switch] } := by
  cases switch <;> simp_all [turnOn]

theorem turnOn_ne_ok {draft final : Draft} {switch : Switch}
    (improper : ¬ (switch ≠ .help ∧ switch ≠ .version)) : draft.turnOn switch ≠ .ok final := by
  cases switch <;> simp_all [turnOn, bind_eq_ok]

/-- An option is added to others if it is not one of them and can be a part of a command line. -/
theorem add_ofGiven_eq_ok_iff {before : List Given} {option : Given} {draft : Draft} :
    (ofGiven before).add option = .ok draft ↔
      (option.key ∉ before.map Given.key ∧ option.IsValid) ∧
        draft = ofGiven (before ++ [option]) := by
  cases option with
  | value setting text =>
      have extended : ofGiven (before ++ [.value setting text]) =
          { ofGiven before with values := (ofGiven before).values ++ [(setting, text)] } := by
        simp [ofGiven, List.filterMap_cons]
      simp only [add, give, isSome_value?_ofGiven, Given.key, Given.IsValid, extended]
      by_cases twice : Key.setting setting ∈ before.map Given.key
      · simp [twice]
      · rcases checkValue setting text with error | _
        · simp [twice, bind, Except.bind]
        · simp [twice, bind, Except.bind, pure, Except.pure, eq_comm]
  | switch known =>
      have extended : ofGiven (before ++ [.switch known]) =
          { ofGiven before with switches := (ofGiven before).switches ++ [known] } := by
        simp [ofGiven, List.filterMap_cons]
      have settled : (ofGiven before).settle = .ok (ofGiven before) := rfl
      simp only [add, Given.key, Given.IsValid, extended]
      by_cases proper : known ≠ .help ∧ known ≠ .version
      · rw [turnOn_eq proper, settled, ok_bind]
        simp only [List.contains_iff_mem, mem_switches_ofGiven]
        by_cases twice : Key.switch known ∈ before.map Given.key
        · simp [twice]
        · simp [twice, proper, eq_comm]
      · simp [turnOn_ne_ok proper, proper]

/-- Options are added one after the other if they are accepted together. -/
theorem foldlM_add_eq_ok_iff {before given : List Given} {final : Draft}
    (accepted : Accepted before) :
    given.foldlM add (ofGiven before) = .ok final ↔
      Accepted (before ++ given) ∧ final = ofGiven (before ++ given) := by
  induction given generalizing before with
  | nil => simp [accepted, pure, Except.pure, eq_comm]
  | cons option rest ih =>
      have parts : before ++ option :: rest = (before ++ [option]) ++ rest := by simp
      simp only [List.foldlM_cons, bind_eq_ok, add_ofGiven_eq_ok_iff, parts]
      constructor
      · rintro ⟨_, ⟨fits, rfl⟩, run⟩
        exact (ih (accepted_concat_iff.mpr ⟨accepted, fits⟩)).mp run
      · rintro ⟨whole, rfl⟩
        have front := (accepted_append_iff.mp whole).1
        have fits := (accepted_concat_iff.mp front).2
        exact ⟨_, ⟨fits, rfl⟩, (ih front).mpr ⟨whole, rfl⟩⟩

/-! ## Reading words -/

/-- The draft after one more word. -/
def readWord (draft : Draft) : Word → Except UsageError Draft
  | .plain text => draft.readPlain text
  | .long name value => draft.readLong name value
  | .letters first rest => draft.readLetters (first :: rest)
  | .close => .ok { draft with closed := true }

theorem read_eq {draft : Draft} (opened : draft.closed = false) (argument : String) :
    draft.read argument = draft.readWord (.ofArgument argument) := by
  unfold read Word.ofArgument
  simp only [opened, Bool.false_eq_true, if_false]
  split
  · next parts => simp [parts, readWord]
  · simp_all [readWord]
  · next parts => simp [parts, readWord]
  · next letters _ _ _ parts =>
      rcases letters with _ | ⟨first, rest⟩
      · contradiction
      · simp_all [readWord]
  · simp_all [readWord]

theorem settle_of_idle {draft : Draft} (idle : draft.pending = none) :
    draft.settle = .ok draft := by
  simp [settle, idle]

/-- What is pending is checked as an option with its value. -/
theorem settle_of_held {draft : Draft} {setting : Setting} {text : String}
    (held : draft.pending = some (setting, some text)) :
    draft.settle = { draft with pending := none }.add (.value setting text) := by
  simp [settle, held, add]

theorem add_idle {draft left : Draft} {option : Given} (idle : draft.pending = none)
    (added : draft.add option = .ok left) :
    left.pending = none ∧ left.closed = draft.closed := by
  cases option with
  | value setting text =>
      simp only [add, give] at added
      split at added
      · cases added
      · rcases bind_eq_ok.mp added with ⟨_, _, done⟩
        cases done
        exact ⟨idle, rfl⟩
  | switch known =>
      by_cases proper : known ≠ .help ∧ known ≠ .version
      · simp only [add, turnOn_eq proper, settle_of_idle idle, ok_bind] at added
        split at added
        · cases added
        · cases added
          exact ⟨idle, rfl⟩
      · exact absurd added (turnOn_ne_ok proper)

theorem settle_idle {draft left : Draft} (settled : draft.settle = .ok left) :
    left.pending = none ∧ left.closed = draft.closed := by
  rcases state : draft.pending with _ | ⟨setting, _ | text⟩
  · rw [settle_of_idle state] at settled
    cases settled
    exact ⟨state, rfl⟩
  · simp [settle, state] at settled
  · rw [settle_of_held state] at settled
    exact @add_idle { draft with pending := none } left _ rfl settled

theorem settle_bind_eq_ok_iff {α : Type} {draft : Draft} {next : Draft → Except UsageError α}
    {value : α} : (draft.settle >>= next) = .ok value ↔
      ∃ settled, draft.settle = .ok settled ∧ (settled.settle >>= next) = .ok value := by
  rw [bind_eq_ok]
  apply exists_congr
  intro settled
  apply and_congr_right
  intro checked
  rw [settle_of_idle (settle_idle checked).1, ok_bind]

/-- Before an option is read, what is pending is checked. -/
theorem readWord_eq_ok_iff {draft final : Draft} {word : Word} (option : word.IsOption) :
    draft.readWord word = .ok final ↔
      ∃ settled, draft.settle = .ok settled ∧ settled.readWord word = .ok final := by
  cases option with
  | letters first rest =>
      simp only [readWord, readLetters]
      rcases Switch.ofLetter? first with _ | switch
      · simp
      · simp only [turnOn, bind_assoc]
        exact settle_bind_eq_ok_iff
  | long name value =>
      simp only [readWord, readLong]
      rcases Key.ofName? name with _ | setting | switch
      · simp
      · cases value with
        | none => exact settle_bind_eq_ok_iff
        | some text => exact settle_bind_eq_ok_iff
      · cases value with
        | none => exact settle_bind_eq_ok_iff
        | some text => simp

end Draft

/-! ## The order of what is given -/

section Order

variable {given said : List Given}

namespace Draft

theorem value?_ofGiven_eq_some_iff (accepted : Accepted given) {setting : Setting}
    {text : String} :
    (ofGiven given).value? setting = some text ↔ .value setting text ∈ given := by
  unfold value? ofGiven
  induction given with
  | nil => simp
  | cons option rest ih =>
      rcases (@accepted_append_iff [option] rest).mp accepted with ⟨_, others, apart⟩
      have later := ih others
      cases option with
      | value other held =>
          by_cases same : setting = other
          · subst same
            have once : Given.value setting text ∉ rest := by
              intro member
              exact apart _ List.mem_cons_self _ member rfl
            simp [once, eq_comm]
          · have different : (setting == other) = false := by simpa using same
            simpa [List.lookup_cons, different, same] using later
      | switch known => simpa [List.filterMap_cons] using later

theorem complete_congr {draft other : Draft} (idle : draft.pending = none)
    (otherIdle : other.pending = none)
    (values : ∀ setting, draft.value? setting = other.value? setting)
    (switches : ∀ switch, draft.switches.contains switch = other.switches.contains switch) :
    draft.complete = other.complete := by
  simp only [complete, settle_of_idle idle, settle_of_idle otherIdle, ok_bind, path?, values,
    switches]

/-- What options say does not depend on their order. -/
theorem complete_of_perm (accepted : Accepted given) (same : given.Perm said) :
    (ofGiven given).complete = (ofGiven said).complete := by
  apply complete_congr rfl rfl
  · intro setting
    apply Option.ext
    intro text
    rw [value?_ofGiven_eq_some_iff accepted, value?_ofGiven_eq_some_iff (accepted.perm same)]
    exact same.mem_iff
  · intro switch
    rw [Bool.eq_iff_iff, List.contains_iff_mem, List.contains_iff_mem, mem_switches_ofGiven,
      mem_switches_ofGiven]
    exact (same.map Given.key).mem_iff

end Draft

theorem Means.perm {result : Arguments} (meant : Means given result) (same : given.Perm said) :
    Means said result :=
  ⟨meant.accepted.perm same, Draft.complete_of_perm meant.accepted same ▸ meant.completed⟩

end Order

end BridgeSetup.CommandLine
