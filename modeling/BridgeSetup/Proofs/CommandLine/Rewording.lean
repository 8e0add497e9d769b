import BridgeSetup.Proofs.CommandLine.Reader
import Mathlib.Data.List.Perm.Basic
import Mathlib.Data.List.TakeWhile
import Mathlib.Logic.Relation

/-!
# Rewording a command line

A command line may be worded in many ways: its options may stand in any order, a long name may be
written with underscores or with hyphens, a short name stands for a long one, and short names may
be put together behind one hyphen (`Rewording`). None of this changes which options are given
(`sameOptions_of_reworded`), only in which order, and what a command line says does not depend on
their order, because none is given twice (`complete_of_perm`). So a command line says the same
however it is worded (`parse_reworded`).

The options of a command line are moved together with their values, and for this it must be seen
where an option ends: a value that stands as an argument of its own belongs to the argument before
it, and no other argument can be taken for a value. The grammar of a command line can therefore be
cut wherever an option begins (`Reads.split`).
-/

namespace BridgeSetup.CommandLine

/-! ## How options are written -/

/-- An argument that can be taken for a value. -/
def IsPlain (argument : String) : Prop :=
  argument = "-" ∨ argument.toList.head? ≠ some '-'

instance (argument : String) : Decidable (IsPlain argument) :=
  inferInstanceAs (Decidable (_ ∨ _))

/-- A long name as an argument, with its value if that is attached. -/
def longOption (name : String) : Option String → String
  | none => "--" ++ name
  | some text => "--" ++ name ++ "=" ++ text

/-- Short names behind one hyphen. -/
def shortOptions (switches : List Switch) : String :=
  String.ofList ('-' :: switches.map Switch.letter)

theorem ofArgument_eq_plain_iff {argument text : String} :
    Word.ofArgument argument = .plain text ↔ IsPlain argument ∧ argument = text := by
  unfold IsPlain Word.ofArgument
  split
  · next closing => simp [closing, ← String.toList_inj]
  · next long => simp [long, ← String.toList_inj]
  · next single => simp [single, ← String.toList_inj]
  · next letters => simp [letters, ← String.toList_inj]
  · next notSingle notLetters =>
      have value : argument.toList.head? ≠ some '-' := by
        intro hyphen
        rcases List.head?_eq_some_iff.mp hyphen with ⟨_ | ⟨second, rest⟩, spelled⟩
        · exact notSingle spelled
        · exact notLetters second rest spelled
      simp [value]

/-- A name is neither empty nor cut by an equals sign. -/
theorem Names.proper {name : String} {key : Key} (names : Names name key) :
    name ≠ "" ∧ '=' ∉ name.toList := by
  rcases names with rfl | rfl
  · cases key with
    | setting known => cases known <;> decide +kernel
    | switch known => cases known <;> decide +kernel
  · cases key with
    | setting known => cases known <;> decide +kernel
    | switch known => cases known <;> decide +kernel

section Splitting

variable {chars : List Char} (whole : '=' ∉ chars)

include whole

theorem ne_equals_of_mem : ∀ c ∈ chars, decide (c ≠ '=') = true := by
  intro c member
  rw [decide_eq_true_eq]
  rintro rfl
  exact whole member

theorem splitAtEquals_of_notMem :
    Draft.splitAtEquals chars = (String.ofList chars, none) := by
  unfold Draft.splitAtEquals
  rw [List.dropWhile_eq_nil_iff.mpr (ne_equals_of_mem whole)]

theorem splitAtEquals_append (text : List Char) :
    Draft.splitAtEquals (chars ++ '=' :: text) =
      (String.ofList chars, some (String.ofList text)) := by
  unfold Draft.splitAtEquals
  rw [List.dropWhile_append_of_pos (ne_equals_of_mem whole),
    List.takeWhile_append_of_pos (ne_equals_of_mem whole)]
  simp

end Splitting

theorem ofArgument_longOption {name : String} {key : Key} (names : Names name key)
    (value : Option String) : Word.ofArgument (longOption name value) = .long name value := by
  rcases names.proper with ⟨nonempty, whole⟩
  rcases letters : name.toList with _ | ⟨first, rest⟩
  · exact absurd (String.toList_eq_nil_iff.mp letters) nonempty
  cases value with
  | none =>
      have parts : (longOption name none).toList = '-' :: '-' :: (first :: rest) := by
        simp [longOption, letters]
      have split : Draft.splitAtEquals (first :: rest) = (name, none) := by
        rw [← letters, splitAtEquals_of_notMem whole, String.ofList_toList]
      simp [Word.ofArgument, parts, split]
  | some text =>
      have parts : (longOption name (some text)).toList =
          '-' :: '-' :: (first :: (rest ++ '=' :: text.toList)) := by
        simp [longOption, letters]
      have split : Draft.splitAtEquals (first :: (rest ++ '=' :: text.toList)) =
          (name, some text) := by
        rw [← List.cons_append, ← letters, splitAtEquals_append whole, String.ofList_toList,
          String.ofList_toList]
      simp [Word.ofArgument, parts, split]

theorem ofArgument_shortOptions (first : Switch) (others : List Switch) :
    Word.ofArgument (shortOptions (first :: others)) =
      .letters first.letter (others.map Switch.letter) := by
  have named : first.letter ≠ '-' := by
    cases first <;> decide
  simp [Word.ofArgument, shortOptions, named]

/-! ## Rewording -/

/-- An option of a command line, with its value if that is an argument of its own. -/
inductive IsOption : List String → Prop
  | alone {option : String} (named : ¬ IsPlain option) : IsOption [option]
  | valued {option value : String} (named : ¬ IsPlain option) (plain : IsPlain value) :
      IsOption [option, value]

/-- Other ways to write the same options. -/
inductive Respells : List String → List String → Prop
  | hyphens (key : Key) (value : Option String) :
      Respells [longOption key.name value] [longOption (hyphenated key.name) value]
  | letter (switch : Switch) : Respells [shortOptions [switch]] [longOption switch.name none]
  | group {front back : List Switch} (someFront : front ≠ []) (someBack : back ≠ []) :
      Respells [shortOptions (front ++ back)] [shortOptions front, shortOptions back]

/-- A step from one wording of a command line to another: its options are put into another order,
each kept together with its value, or some of them are written in another way. -/
inductive Rewording : List String → List String → Prop
  | reorder {options others : List (List String)} (whole : ∀ words ∈ options, IsOption words)
      (same : options.Perm others) : Rewording options.flatten others.flatten
  | respell {old new : List String} (before after : List String) (respells : Respells old new) :
      Rewording (before ++ old ++ after) (before ++ new ++ after)

/-- The second command line gives the options of the first one in some order. -/
def SameOptions (arguments others : List String) : Prop :=
  ∀ given, Gives arguments given → ∃ said, Gives others said ∧ given.Perm said

theorem gives_shortOptions_iff {switches : List Switch} (some : switches ≠ [])
    {after : List String} {given : List Given} :
    Gives (shortOptions switches :: after) given ↔
      ∃ later, given = switches.map .switch ++ later ∧ Gives after later := by
  rcases switches with _ | ⟨first, others⟩
  · exact absurd rfl some
  · rw [Gives, List.map_cons, ofArgument_shortOptions]
    exact reads_letters_iff rfl

theorem gives_longSwitch_iff {switch : Switch} {after : List String} {given : List Given} :
    Gives (longOption switch.name none :: after) given ↔
      ∃ later, given = .switch switch :: later ∧ Gives after later := by
  have names : Names switch.name (.switch switch) := Or.inl rfl
  rw [Gives, List.map_cons, ofArgument_longOption names]
  exact reads_switch_iff names

/-! ### Writing options in another way -/

/-- The arguments do not begin with a value. -/
def Begins (arguments : List String) : Prop :=
  Opens (arguments.map Word.ofArgument)

theorem begins_longOption {name : String} {key : Key} (names : Names name key)
    (value : Option String) (after : List String) : Begins (longOption name value :: after) := by
  intro text
  simp [ofArgument_longOption names]

theorem begins_shortOptions {switches : List Switch} (some : switches ≠ []) (after : List String) :
    Begins (shortOptions switches :: after) := by
  rcases switches with _ | ⟨first, others⟩
  · exact absurd rfl some
  · intro text
    simp [ofArgument_shortOptions]

namespace Respells

variable {old new : List String}

theorem begins (respells : Respells old new) (after : List String) :
    Begins (old ++ after) ∧ Begins (new ++ after) := by
  cases respells with
  | hyphens key value =>
      exact ⟨begins_longOption (Or.inl rfl) value after, begins_longOption (Or.inr rfl) value after⟩
  | letter switch =>
      have names : Names switch.name (.switch switch) := Or.inl rfl
      exact ⟨begins_shortOptions (by simp) after, begins_longOption names none after⟩
  | group someFront someBack =>
      exact ⟨begins_shortOptions (by simp [someFront]) after, begins_shortOptions someFront _⟩

theorem gives_iff (respells : Respells old new) (after : List String) (given : List Given) :
    Gives (old ++ after) given ↔ Gives (new ++ after) given := by
  cases respells with
  | hyphens key value =>
      have plain : Names key.name key := Or.inl rfl
      have hyphens : Names (hyphenated key.name) key := Or.inr rfl
      simp only [Gives, List.cons_append, List.nil_append, List.map_cons,
        ofArgument_longOption plain, ofArgument_longOption hyphens]
      constructor
      · intro reads
        exact reads.renamed plain hyphens
      · intro reads
        exact reads.renamed hyphens plain
  | letter switch =>
      exact (gives_shortOptions_iff (List.cons_ne_nil switch [])).trans gives_longSwitch_iff.symm
  | @group front back someFront someBack =>
      have someBoth : front ++ back ≠ [] := by simp [someFront]
      simp only [List.cons_append, List.nil_append, gives_shortOptions_iff someBoth,
        gives_shortOptions_iff someFront, gives_shortOptions_iff someBack, List.map_append]
      constructor
      · rintro ⟨later, rfl, rest⟩
        exact ⟨_, List.append_assoc .., later, rfl, rest⟩
      · rintro ⟨_, rfl, later, rfl, rest⟩
        exact ⟨later, (List.append_assoc ..).symm, rest⟩

end Respells

/-- What is exchanged for something that gives the same gives the same among other options. -/
theorem Gives.exchange {before old new : List String} {given : List Given}
    (gives : Gives (before ++ old) given) (begins : Begins old)
    (same : ∀ said, Gives old said → Gives new said) : Gives (before ++ new) given := by
  rcases gives.split begins with ⟨first, second, rfl, front, back⟩
  exact front.append (same second back)

/-! ### Putting options into another order -/

section Reordering

variable {options others : List (List String)}

theorem IsOption.begins {words : List String} (option : IsOption words) (after : List String) :
    Begins (words ++ after) := by
  intro text
  cases option with
  | alone named => simp [ofArgument_eq_plain_iff, named]
  | valued named _ => simp [ofArgument_eq_plain_iff, named]

theorem begins_flatten (whole : ∀ words ∈ options, IsOption words) : Begins options.flatten := by
  rcases options with _ | ⟨words, rest⟩
  · simp [Begins, Opens]
  · exact (whole words List.mem_cons_self).begins rest.flatten

/-- A sequence of options gives what each of them gives by itself. -/
theorem gives_flatten_iff (whole : ∀ words ∈ options, IsOption words) {given : List Given} :
    Gives options.flatten given ↔
      ∃ parts, List.Forall₂ Gives options parts ∧ given = parts.flatten := by
  induction options generalizing given with
  | nil => simp [gives_nil_iff]
  | cons words rest ih =>
      have others : ∀ words ∈ rest, IsOption words := by
        intro other member
        exact whole other (List.mem_cons_of_mem words member)
      rw [List.flatten_cons]
      constructor
      · intro gives
        rcases gives.split (begins_flatten others) with ⟨first, second, rfl, front, back⟩
        rcases (ih others).mp back with ⟨parts, each, rfl⟩
        exact ⟨first :: parts, .cons front each, rfl⟩
      · rintro ⟨_, _ | ⟨front, each⟩, rfl⟩
        exact front.append ((ih others).mpr ⟨_, each, rfl⟩)

theorem sameOptions_of_perm (whole : ∀ words ∈ options, IsOption words)
    (same : options.Perm others) : SameOptions options.flatten others.flatten := by
  intro given gives
  have wholeOthers : ∀ words ∈ others, IsOption words := by
    intro words member
    exact whole words (same.mem_iff.mpr member)
  rcases (gives_flatten_iff whole).mp gives with ⟨parts, each, rfl⟩
  rcases List.perm_comp_forall₂ same.symm each with ⟨otherParts, eachOther, order⟩
  exact ⟨otherParts.flatten, (gives_flatten_iff wholeOthers).mpr ⟨_, eachOther, rfl⟩,
    order.symm.flatten⟩

end Reordering

/-! ### Wordings of one command line -/

theorem sameOptions_of_rewording {arguments others : List String}
    (rewording : Rewording arguments others) :
    SameOptions arguments others ∧ SameOptions others arguments := by
  cases rewording with
  | reorder whole same =>
      refine ⟨sameOptions_of_perm whole same, sameOptions_of_perm ?_ same.symm⟩
      intro words member
      exact whole words (same.mem_iff.mpr member)
  | respell before after respells =>
      rcases respells.begins after with ⟨oldBegins, newBegins⟩
      simp only [List.append_assoc]
      constructor
      · intro given gives
        refine ⟨given, gives.exchange oldBegins ?_, .refl given⟩
        intro said
        exact (respells.gives_iff after said).mp
      · intro given gives
        refine ⟨given, gives.exchange newBegins ?_, .refl given⟩
        intro said
        exact (respells.gives_iff after said).mpr

theorem SameOptions.trans {first second third : List String} (early : SameOptions first second)
    (late : SameOptions second third) : SameOptions first third := by
  intro given gives
  rcases early given gives with ⟨said, middle, order⟩
  rcases late said middle with ⟨last, final, lastOrder⟩
  exact ⟨last, final, order.trans lastOrder⟩

theorem sameOptions_of_reworded {arguments others : List String}
    (reworded : Relation.EqvGen Rewording arguments others) :
    SameOptions arguments others ∧ SameOptions others arguments := by
  induction reworded with
  | rel first second rewording => exact sameOptions_of_rewording rewording
  | refl words =>
      have itself : SameOptions words words := fun given gives => ⟨given, gives, .refl given⟩
      exact ⟨itself, itself⟩
  | symm first second _ ih => exact ⟨ih.2, ih.1⟩
  | trans first second third _ _ early late =>
      exact ⟨early.1.trans late.1, late.2.trans early.2⟩

/-- A command line that is accepted, and in which there is no double hyphen, is accepted in every
other wording and says the same, for its options are the same up to their order. -/
theorem parse_reworded {arguments others : List String} {result : Arguments}
    (reworded : Relation.EqvGen Rewording arguments others) (unclosed : "--" ∉ arguments)
    (parsed : parse arguments = .ok result) :
    parse others = .ok result ∧ ∃ given said, Gives arguments given ∧ Gives others said ∧
      given.Perm said ∧ Means given result := by
  rcases (parse_eq_ok_iff unclosed).mp parsed with ⟨given, gives, meant⟩
  rcases (sameOptions_of_reworded reworded).1 given gives with ⟨said, givesOther, order⟩
  refine ⟨?_, given, said, gives, givesOther, order, meant⟩
  exact (parse_eq_ok_iff givesOther.unclosed).mpr ⟨said, givesOther, meant.perm order⟩

/-- A command line with a value that is a hyphen, short names, and a value that is attached. -/
def sampleLine : List String :=
  ["--java_module", "-", "-jp", "--log_level=debug"]

/-- The same command line in another wording. -/
def sampleWording : List String :=
  ["--log-level=debug", "-p", "--req_java", "--java_module", "-"]

/-- What both say. -/
def sampleArguments : Arguments where
  snapHome := none
  reqArch := none
  javaModule := ⟨"-"⟩
  javaHome := none
  python := none
  installDir := none
  logFile := none
  logLevel := .debug
  reqJava := true
  reqPython := true
  force := false

theorem sampleLine_reworded : Relation.EqvGen Rewording sampleLine sampleWording := by
  have cut : Respells ["-jp"] ["-j", "-p"] :=
    .group (List.cons_ne_nil Switch.reqJava []) (List.cons_ne_nil Switch.reqPython [])
  have long : Respells ["-j"] ["--req_java"] := .letter .reqJava
  have hyphens : Respells ["--log_level=debug"] ["--log-level=debug"] := by
    have spelled : longOption (hyphenated (Key.setting .logLevel).name) (some "debug") =
        "--log-level=debug" := by
      decide +kernel
    exact spelled ▸ Respells.hyphens (.setting .logLevel) (some "debug")
  have order : Rewording
      [["--java_module", "-"], ["--req_java"], ["-p"], ["--log-level=debug"]].flatten
      [["--log-level=debug"], ["-p"], ["--req_java"], ["--java_module", "-"]].flatten := by
    apply Rewording.reorder
    · intro words member
      simp only [List.mem_cons, List.not_mem_nil, or_false] at member
      rcases member with rfl | rfl | rfl | rfl
      · exact .valued (by decide) (by decide)
      · exact .alone (by decide)
      · exact .alone (by decide)
      · exact .alone (by decide)
    · exact (List.reverse_perm _).symm
  have first := Rewording.respell ["--java_module", "-"] ["--log_level=debug"] cut
  have second := Rewording.respell ["--java_module", "-"] ["-p", "--log_level=debug"] long
  have third := Rewording.respell ["--java_module", "-", "--req_java", "-p"] [] hyphens
  exact .trans _ _ _ (.rel _ _ first)
    (.trans _ _ _ (.rel _ _ second) (.trans _ _ _ (.rel _ _ third) (.rel _ _ order)))

theorem parse_reworded_sample :
    Relation.EqvGen Rewording sampleLine sampleWording ∧ "--" ∉ sampleLine ∧
      parse sampleLine = .ok sampleArguments ∧ parse sampleWording = .ok sampleArguments ∧
      ∃ given said, Gives sampleLine given ∧ Gives sampleWording said ∧ given.Perm said ∧
        Means given sampleArguments := by
  have unclosed : "--" ∉ sampleLine := by decide
  have parsed : parse sampleLine = .ok sampleArguments := by decide +kernel
  exact ⟨sampleLine_reworded, unclosed, parsed,
    parse_reworded sampleLine_reworded unclosed parsed⟩

end BridgeSetup.CommandLine
