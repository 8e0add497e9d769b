import BridgeSetup.CommandLine.Parser

/-!
# The grammar of the command line

What an argument is can be seen from its text alone: a value, a long name with or without a value
attached, a group of short names, or the double hyphen (`Word`). A command line is a sequence of
such words in which every long name that takes a value has it attached or is followed by it
(`Reads`), and it gives a list of options. Only such a name takes up the word after it, so a command
line can be cut wherever the next word is not a value (`Reads.split`).

The options are accepted when none is given twice and every value is one that its option takes
(`Accepted`).
-/

namespace BridgeSetup.CommandLine

/-! ## Names -/

/-- A name is one of the two spellings of an option's long name. -/
def Names (name : String) (key : Key) : Prop :=
  name = key.name ∨ name = hyphenated key.name

theorem Key.ofName?_name (key : Key) :
    ofName? key.name = some key ∧ ofName? (hyphenated key.name) = some key := by
  cases key with
  | setting known => cases known <;> decide +kernel
  | switch known => cases known <;> decide +kernel

@[simp]
theorem ofName?_eq_some_iff {name : String} {key : Key} :
    Key.ofName? name = some key ↔ Names name key := by
  constructor
  · intro found
    have spelled := List.find?_some found
    simp only [Bool.or_eq_true, decide_eq_true_eq] at spelled
    rcases spelled with plain | hyphens
    · exact Or.inl plain.symm
    · exact Or.inr hyphens.symm
  · rintro (rfl | rfl)
    · exact key.ofName?_name.1
    · exact key.ofName?_name.2

theorem Names.unique {name : String} {key other : Key} (names : Names name key)
    (same : Names name other) : key = other :=
  Option.some.inj ((ofName?_eq_some_iff.mpr names).symm.trans (ofName?_eq_some_iff.mpr same))

theorem letter_injective : Function.Injective Switch.letter := by
  intro first second
  cases first <;> cases second <;> decide

theorem letters_inj {switches others : List Switch} :
    switches.map Switch.letter = others.map Switch.letter ↔ switches = others :=
  List.map_inj_right fun _ _ same => letter_injective same

@[simp]
theorem ofLetter?_eq_some_iff {letter : Char} {switch : Switch} :
    Switch.ofLetter? letter = some switch ↔ switch.letter = letter := by
  constructor
  · intro found
    simpa using List.find?_some found
  · rintro rfl
    cases switch <;> decide

/-! ## Words -/

/-- What an argument is by its text alone. -/
inductive Word where
  | plain (text : String)
  | long (name : String) (value : Option String)
  | letters (first : Char) (rest : List Char)
  | close
  deriving DecidableEq

/-- The word that an argument is. -/
def Word.ofArgument (argument : String) : Word :=
  match argument.toList with
  | ['-', '-'] => .close
  | '-' :: '-' :: rest => .long (Draft.splitAtEquals rest).1 (Draft.splitAtEquals rest).2
  | ['-'] => .plain argument
  | '-' :: first :: rest => .letters first rest
  | _ => .plain argument

theorem Word.ofArgument_eq_close_iff {argument : String} :
    ofArgument argument = .close ↔ argument = "--" := by
  constructor
  · intro closing
    unfold ofArgument at closing
    split at closing <;> simp_all [← String.toList_inj]
  · rintro rfl
    decide

/-- The words do not begin with a value. -/
def Opens (words : List Word) : Prop :=
  ∀ text, words.head? ≠ some (.plain text)

/-- A word that is one option or several, with or without a value. -/
inductive Word.IsOption : Word → Prop
  | long (name : String) (value : Option String) : IsOption (.long name value)
  | letters (first : Char) (rest : List Char) : IsOption (.letters first rest)

theorem Word.IsOption.opens {word : Word} (option : word.IsOption) (words : List Word) :
    Opens (word :: words) := by
  intro text
  cases option <;> simp

/-! ## What a command line gives -/

/-- What one option of a command line gives. -/
inductive Given where
  | value (setting : Setting) (text : String)
  | switch (switch : Switch)
  deriving DecidableEq

namespace Given

/-- The option that is given. -/
@[simp]
def key : Given → Key
  | value setting _ => .setting setting
  | switch known => .switch known

/-- The value that is given, and what for. -/
@[simp]
def value? : Given → Option (Setting × String)
  | value setting text => some (setting, text)
  | switch _ => none

/-- The option without a value that is given. -/
@[simp]
def switch? : Given → Option Switch
  | value _ _ => none
  | switch known => some known

/-- What is given can be a part of a command line that is carried out. -/
def IsValid : Given → Prop
  | value setting text => Draft.checkValue setting text = .ok ()
  | switch known => known ≠ .help ∧ known ≠ .version

end Given

/-- A command line and what it gives. -/
inductive Reads : List Word → List Given → Prop
  | done : Reads [] []
  | switch {name : String} {switch : Switch} {words : List Word} {given : List Given}
      (names : Names name (.switch switch)) (rest : Reads words given) :
      Reads (.long name none :: words) (.switch switch :: given)
  | letters {first : Char} {others : List Char} {switches : List Switch} {words : List Word}
      {given : List Given} (spelled : first :: others = switches.map Switch.letter)
      (rest : Reads words given) :
      Reads (.letters first others :: words) (switches.map .switch ++ given)
  | attached {name text : String} {setting : Setting} {words : List Word} {given : List Given}
      (names : Names name (.setting setting)) (rest : Reads words given) :
      Reads (.long name (some text) :: words) (.value setting text :: given)
  | apart {name text : String} {setting : Setting} {words : List Word} {given : List Given}
      (names : Names name (.setting setting)) (rest : Reads words given) :
      Reads (.long name none :: .plain text :: words) (.value setting text :: given)

section Inversion

variable {name : String} {words : List Word} {given : List Given}

theorem reads_letters_iff {first : Char} {others : List Char} {switches : List Switch}
    (spelled : first :: others = switches.map Switch.letter) :
    Reads (.letters first others :: words) given ↔
      ∃ later, given = switches.map .switch ++ later ∧ Reads words later := by
  constructor
  · intro reads
    cases reads with
    | letters again rest =>
        rw [letters_inj.mp (again.symm.trans spelled)]
        exact ⟨_, rfl, rest⟩
  · rintro ⟨later, rfl, rest⟩
    exact .letters spelled rest

theorem reads_switch_iff {switch : Switch} (names : Names name (.switch switch)) :
    Reads (.long name none :: words) given ↔
      ∃ later, given = .switch switch :: later ∧ Reads words later := by
  constructor
  · intro reads
    cases reads with
    | switch again rest =>
        cases Names.unique again names
        exact ⟨_, rfl, rest⟩
    | apart again rest => cases Names.unique again names
  · rintro ⟨later, rfl, rest⟩
    exact .switch names rest

theorem reads_attached_iff {setting : Setting} {text : String}
    (names : Names name (.setting setting)) :
    Reads (.long name (some text) :: words) given ↔
      ∃ later, given = .value setting text :: later ∧ Reads words later := by
  constructor
  · intro reads
    cases reads with
    | attached again rest =>
        cases Names.unique again names
        exact ⟨_, rfl, rest⟩
  · rintro ⟨later, rfl, rest⟩
    exact .attached names rest

/-- A command line names only options that there are. -/
theorem Reads.named {value : Option String} (reads : Reads (.long name value :: words) given) :
    ∃ key, Names name key := by
  cases reads with
  | switch names _ => exact ⟨_, names⟩
  | attached names _ => exact ⟨_, names⟩
  | apart names _ => exact ⟨_, names⟩

/-- How the name of an option is spelled does not matter. -/
theorem Reads.renamed {other : String} {key : Key} {value : Option String}
    (reads : Reads (.long name value :: words) given) (names : Names name key)
    (same : Names other key) : Reads (.long other value :: words) given := by
  cases reads with
  | switch again rest =>
      cases Names.unique names again
      exact .switch same rest
  | attached again rest =>
      cases Names.unique names again
      exact .attached same rest
  | apart again rest =>
      cases Names.unique names again
      exact .apart same rest

end Inversion

theorem Reads.unclosed {words : List Word} {given : List Given} (reads : Reads words given) :
    Word.close ∉ words := by
  induction reads with
  | done => simp
  | switch _ _ ih => simpa using ih
  | letters _ _ ih => simpa using ih
  | attached _ _ ih => simpa using ih
  | apart _ _ ih => simpa using ih

/-! ## Cutting a command line -/

section Cutting

variable {front back : List Word} {given said whole : List Given}

theorem Reads.append (first : Reads front given) (second : Reads back said) :
    Reads (front ++ back) (given ++ said) := by
  induction first with
  | done => exact second
  | switch names _ ih => exact .switch names ih
  | letters spelled _ ih =>
      rw [List.append_assoc]
      exact .letters spelled ih
  | attached names _ ih => exact .attached names ih
  | apart names _ ih => exact .apart names ih

/-- A command line can be cut where no value follows. -/
theorem Reads.split (reads : Reads (front ++ back) whole) (opens : Opens back) :
    ∃ given said, whole = given ++ said ∧ Reads front given ∧ Reads back said := by
  generalize joined : front ++ back = words at reads
  induction reads generalizing front with
  | done =>
      rcases List.append_eq_nil_iff.mp joined with ⟨rfl, rfl⟩
      exact ⟨[], [], rfl, .done, .done⟩
  | switch names rest ih =>
      rcases List.append_eq_cons_iff.mp joined with ⟨rfl, rfl⟩ | ⟨front, rfl, later⟩
      · exact ⟨[], _, rfl, .done, .switch names rest⟩
      · rcases ih later.symm with ⟨given, said, rfl, first, second⟩
        exact ⟨_ :: given, said, rfl, .switch names first, second⟩
  | letters spelled rest ih =>
      rcases List.append_eq_cons_iff.mp joined with ⟨rfl, rfl⟩ | ⟨front, rfl, later⟩
      · exact ⟨[], _, rfl, .done, .letters spelled rest⟩
      · rcases ih later.symm with ⟨given, said, rfl, first, second⟩
        exact ⟨_ ++ given, said, (List.append_assoc ..).symm, .letters spelled first, second⟩
  | attached names rest ih =>
      rcases List.append_eq_cons_iff.mp joined with ⟨rfl, rfl⟩ | ⟨front, rfl, later⟩
      · exact ⟨[], _, rfl, .done, .attached names rest⟩
      · rcases ih later.symm with ⟨given, said, rfl, first, second⟩
        exact ⟨_ :: given, said, rfl, .attached names first, second⟩
  | apart names rest ih =>
      rcases List.append_eq_cons_iff.mp joined with ⟨rfl, rfl⟩ | ⟨front, rfl, later⟩
      · exact ⟨[], _, rfl, .done, .apart names rest⟩
      · rcases List.append_eq_cons_iff.mp later.symm with ⟨rfl, rfl⟩ | ⟨front, rfl, last⟩
        · exact absurd rfl (opens _)
        · rcases ih last.symm with ⟨given, said, rfl, first, second⟩
          exact ⟨_ :: given, said, rfl, .apart names first, second⟩

end Cutting

/-- A command line and the options that it gives. -/
def Gives (arguments : List String) (given : List Given) : Prop :=
  Reads (arguments.map Word.ofArgument) given

theorem Gives.unclosed {arguments : List String} {given : List Given}
    (gives : Gives arguments given) : "--" ∉ arguments := by
  intro member
  apply Reads.unclosed gives
  exact List.mem_map.mpr ⟨"--", member, Word.ofArgument_eq_close_iff.mpr rfl⟩

theorem Gives.append {before after : List String} {given said : List Given}
    (first : Gives before given) (second : Gives after said) :
    Gives (before ++ after) (given ++ said) := by
  rw [Gives, List.map_append]
  exact Reads.append first second

theorem Gives.split {before after : List String} {whole : List Given}
    (gives : Gives (before ++ after) whole) (opens : Opens (after.map Word.ofArgument)) :
    ∃ given said, whole = given ++ said ∧ Gives before given ∧ Gives after said := by
  rw [Gives, List.map_append] at gives
  exact Reads.split gives opens

theorem gives_nil_iff {given : List Given} : Gives [] given ↔ given = [] := by
  constructor
  · intro reads
    cases reads
    rfl
  · rintro rfl
    exact .done

/-! ## Which options are accepted -/

/-- No option is given twice, and each can be a part of a command line that is carried out. -/
structure Accepted (given : List Given) : Prop where
  distinct : (given.map Given.key).Nodup
  valid : ∀ option ∈ given, option.IsValid

theorem Accepted.nil : Accepted [] := by
  constructor <;> simp

theorem accepted_append_iff {before given : List Given} :
    Accepted (before ++ given) ↔ Accepted before ∧ Accepted given ∧
      ∀ first ∈ before, ∀ second ∈ given, first.key ≠ second.key := by
  constructor
  · rintro ⟨distinct, valid⟩
    rw [List.map_append, List.nodup_append] at distinct
    rcases distinct with ⟨early, late, apart⟩
    refine ⟨⟨early, ?_⟩, ⟨late, ?_⟩, ?_⟩
    · intro option member
      exact valid option (List.mem_append_left given member)
    · intro option member
      exact valid option (List.mem_append_right before member)
    · intro first firstMem second secondMem
      exact apart _ (List.mem_map_of_mem firstMem) _ (List.mem_map_of_mem secondMem)
  · rintro ⟨early, late, apart⟩
    constructor
    · rw [List.map_append, List.nodup_append]
      refine ⟨early.distinct, late.distinct, ?_⟩
      intro first firstMem second secondMem
      rcases List.mem_map.mp firstMem with ⟨one, oneMem, rfl⟩
      rcases List.mem_map.mp secondMem with ⟨other, otherMem, rfl⟩
      exact apart one oneMem other otherMem
    · intro option member
      rcases List.mem_append.mp member with first | second
      · exact early.valid option first
      · exact late.valid option second

theorem accepted_concat_iff {before : List Given} {option : Given} :
    Accepted (before ++ [option]) ↔
      Accepted before ∧ option.key ∉ before.map Given.key ∧ option.IsValid := by
  rw [accepted_append_iff]
  apply and_congr_right
  intro _
  constructor
  · rintro ⟨single, apart⟩
    refine ⟨?_, single.valid option List.mem_cons_self⟩
    intro member
    rcases List.mem_map.mp member with ⟨other, otherMem, same⟩
    exact apart other otherMem option List.mem_cons_self same
  · rintro ⟨fresh, valid⟩
    refine ⟨⟨by simp, by simpa using valid⟩, ?_⟩
    intro other otherMem second secondMem same
    rw [List.mem_singleton.mp secondMem] at same
    exact fresh (same ▸ List.mem_map_of_mem otherMem)

theorem Accepted.perm {given said : List Given} (accepted : Accepted given)
    (same : given.Perm said) : Accepted said := by
  constructor
  · exact (same.map Given.key).nodup_iff.mp accepted.distinct
  · intro option member
    exact accepted.valid option (same.mem_iff.mpr member)

end BridgeSetup.CommandLine
