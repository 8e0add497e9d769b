import BridgeSetup.Installer.Scripted
import BridgeSetup.Proofs.Text.Reading
import Mathlib.Data.List.Infix

/-!
# The status line in an installer's output

The status is found among whatever else an installer writes. The lines of the output are
searched from the last one, so the last tagged line counts (`LastTagged`) and hides all earlier
ones, also when its value is no status. A value is a status if it is a decimal integer of 32
bits (`Denotes`): `integer?_eq_some_iff` ties the reader of numbers to the numerals, and an integer
is printed as a numeral (`numeral_toString`).

A status that has been announced last is on the last tagged line (`lastTagged_announced`), because
line feeds separate the announcement from bytes that need not be text.
-/

namespace BridgeSetup

namespace Status

/-! ## Numerals -/

def IsDecimal (digits : List Char) : Prop :=
  digits ≠ [] ∧ ∀ c ∈ digits, c.isDigit = true

/-- Decimal digits, possibly with a sign before them, and the integer that they mean. -/
inductive Numeral : List Char → Int → Prop where
  | bare {digits} (decimal : IsDecimal digits) : Numeral digits (Nat.ofDigitChars 10 digits 0)
  | plus {digits} (decimal : IsDecimal digits) :
      Numeral ('+' :: digits) (Nat.ofDigitChars 10 digits 0)
  | minus {digits} (decimal : IsDecimal digits) :
      Numeral ('-' :: digits) (-Nat.ofDigitChars 10 digits 0)

theorem digits?_eq_some_iff {chars : List Char} {value : Nat} :
    digits? chars = some value ↔ IsDecimal chars ∧ value = Nat.ofDigitChars 10 chars 0 := by
  rcases chars with _ | ⟨c, rest⟩
  · simp [digits?, IsDecimal]
  rw [Nat.ofDigitChars_eq_foldl]
  simp only [digits?]
  by_cases decimal : (c :: rest).all Char.isDigit = true
  · rw [if_pos decimal, Option.some.injEq]
    have digits : IsDecimal (c :: rest) := ⟨by simp, List.all_eq_true.mp decimal⟩
    exact ⟨fun same => ⟨digits, same.symm⟩, fun meant => meant.2.symm⟩
  · rw [if_neg decimal]
    have other : ¬ IsDecimal (c :: rest) := by
      rintro ⟨_, digits⟩
      exact decimal (List.all_eq_true.mpr digits)
    simp [other]

theorem integer?_eq_some_iff {chars : List Char} {value : Int} :
    integer? chars = some value ↔ Numeral chars value := by
  constructor
  · intro read
    unfold integer? at read
    split at read
    all_goals
      rcases Option.map_eq_some_iff.mp read with ⟨magnitude, digits, rfl⟩
      rcases digits?_eq_some_iff.mp digits with ⟨decimal, rfl⟩
    · exact .minus decimal
    · exact .plus decimal
    · exact .bare decimal
  · intro numeral
    cases numeral with
    | bare decimal =>
        have unsigned : ∀ c ∈ chars, c ≠ '-' ∧ c ≠ '+' := by
          intro c member
          constructor
          all_goals
            rintro rfl
            exact absurd (decimal.2 _ member) (by decide)
        unfold integer?
        split
        · exact absurd rfl (unsigned _ List.mem_cons_self).1
        · exact absurd rfl (unsigned _ List.mem_cons_self).2
        · simp [digits?_eq_some_iff.mpr ⟨decimal, rfl⟩]
    | plus decimal => simp [integer?, digits?_eq_some_iff.mpr ⟨decimal, rfl⟩]
    | minus decimal => simp [integer?, digits?_eq_some_iff.mpr ⟨decimal, rfl⟩]

theorem isDecimal_toDigits (value : Nat) : IsDecimal (Nat.toDigits 10 value) :=
  ⟨Nat.toDigits_ne_nil, fun _ member => Nat.isDigit_of_mem_toDigits (by decide) (by decide) member⟩

/-- An integer is printed as a numeral that means it. -/
theorem numeral_toString (value : Int) : Numeral (toString value).toList value := by
  have digits (magnitude : Nat) : Nat.ofDigitChars 10 (Nat.toDigits 10 magnitude) 0 = magnitude :=
    Nat.ofDigitChars_ten_toDigits
  rcases value with magnitude | magnitude
  · have bare := Numeral.bare (isDecimal_toDigits magnitude)
    simpa [digits, Int.repr] using bare
  · have minus := Numeral.minus (isDecimal_toDigits (magnitude + 1))
    rw [digits] at minus
    change Numeral ("-" ++ (magnitude + 1).repr).toList (-((magnitude + 1 : Nat) : Int))
    simpa using minus

/-! ## The last tagged line -/

/-- A line that starts with the tag, but for white space. -/
def IsTagged (line : String) : Prop :=
  statusTag.toList <+: (Text.trim line).toList

instance (line : String) : Decidable (IsTagged line) :=
  inferInstanceAs (Decidable (_ <+: _))

/-- The last of the tagged lines has a value after its tag. -/
def LastTagged (lines : List String) (value : List Char) : Prop :=
  ∃ earlier line later, lines = earlier ++ line :: later ∧
    (Text.trim line).toList = statusTag.toList ++ value ∧ ∀ other ∈ later, ¬ IsTagged other

/-- The characters are a numeral of a status, which is an integer of 32 bits. -/
def Denotes (value : List Char) (status : Int) : Prop :=
  Numeral value status ∧ least ≤ status ∧ status ≤ greatest

theorem value?_eq_some_iff {line : String} {value : List Char} :
    value? line = some value ↔ (Text.trim line).toList = statusTag.toList ++ value := by
  simp only [value?]
  split
  · next starts =>
      rcases List.isPrefixOf_iff_prefix.mp starts with ⟨rest, parts⟩
      rw [← parts, List.drop_left, Option.some.injEq, List.append_cancel_left_eq]
  · next other =>
      constructor
      · simp
      · intro parts
        simp [parts] at other

theorem value?_eq_none_iff {line : String} : value? line = none ↔ ¬ IsTagged line := by
  simp [value?, IsTagged]

theorem parse_eq_some_iff {value : List Char} {status : Int} :
    parse value = some status ↔ Denotes value status := by
  simp only [parse, Option.filter_eq_some_iff, integer?_eq_some_iff, Denotes, Bool.and_eq_true,
    decide_eq_true_eq]

theorem lastTagged_iff {lines : List String} {value : List Char} :
    lines.reverse.findSome? value? = some value ↔ LastTagged lines value := by
  simp only [List.findSome?_eq_some_iff, value?_eq_some_iff, value?_eq_none_iff, LastTagged]
  constructor
  · rintro ⟨later, line, earlier, parts, tagged, untagged⟩
    refine ⟨earlier.reverse, line, later.reverse, ?_, tagged, by simpa using untagged⟩
    rw [List.reverse_eq_iff] at parts
    simp [parts]
  · rintro ⟨earlier, line, later, rfl, tagged, untagged⟩
    exact ⟨later.reverse, line, earlier.reverse, by simp, tagged, by simpa using untagged⟩

theorem ofOutput_eq_some_iff {output : String} {status : Int} :
    ofOutput output = some status ↔
      ∃ value, LastTagged (Text.lines output) value ∧ Denotes value status := by
  simp only [ofOutput, Option.bind_eq_some_iff, lastTagged_iff, parse_eq_some_iff]

/-! ## A status that is announced -/

/-- What an installer writes to announce a status, on a line of its own. -/
def report (status : Int) : String :=
  "\n" ++ statusTag ++ toString status ++ "\n"

/-- The status line of an announcement. -/
def announced (status : Int) : List Char :=
  statusTag.toList ++ (toString status).toList

theorem toList_report (status : Int) :
    (report status).toList = '\n' :: (announced status ++ ['\n']) := by
  simp [report, announced]

theorem Numeral.isGraphic {chars : List Char} {value : Int} (numeral : Numeral chars value) :
    ∀ c ∈ chars, Text.IsGraphic c := by
  have digit {c : Char} (decimal : c.isDigit = true) : Text.IsGraphic c := by
    simp only [Char.isDigit, Bool.and_eq_true, decide_eq_true_eq] at decimal
    have first : '0'.toNat ≤ c.toNat := decimal.1
    have last : c.toNat ≤ '9'.toNat := decimal.2
    exact ⟨Nat.le_trans (by decide) first, Nat.le_trans last (by decide)⟩
  cases numeral with
  | bare decimal => exact fun c member => digit (decimal.2 c member)
  | plus decimal | minus decimal =>
      intro c member
      rcases List.mem_cons.mp member with rfl | member
      · exact ⟨by decide, by decide⟩
      · exact digit (decimal.2 c member)

theorem isGraphic_announced (status : Int) : ∀ c ∈ announced status, Text.IsGraphic c := by
  intro c member
  rcases List.mem_append.mp member with tag | number
  · have graphic : statusTag.toList.all (fun c => decide (Text.IsGraphic c)) = true := by decide
    simpa using List.all_eq_true.mp graphic c tag
  · exact (numeral_toString status).isGraphic c number

/-- A status that is announced last is on the last tagged line. -/
theorem lastTagged_announced (before : Bytes) (status : Int) {after : Bytes}
    (untagged : ∀ line ∈ Text.lines (Utf8.decodeLossy after), ¬ IsTagged line) :
    LastTagged (Text.lines (Utf8.decodeLossy (before ++ Bytes.ofString (report status) ++ after)))
      (toString status).toList := by
  have graphic := isGraphic_announced status
  have ascii : ∀ c ∈ (report status).toList, c.toNat < 0x80 := by
    intro c member
    simp only [toList_report, List.mem_cons, List.mem_append, List.not_mem_nil, or_false] at member
    rcases member with rfl | member | rfl
    · decide
    · exact (graphic c member).ascii
    · decide
  have written : report status ≠ "" := by
    simp [report]
  have decoded := Utf8.lossyChars_around ascii written before after
  rw [toList_report] at decoded
  -- The announcement brings its own line feeds, so what is around it is on other lines.
  have whole : '\n' ∉ announced status :=
    fun member => (graphic _ member).ne_of_blank (by decide) rfl
  have parts : (Utf8.decodeLossy (before ++ Bytes.ofString (report status) ++ after)).toList =
      Utf8.lossyChars before ++ '\n' :: (announced status ++ '\n' :: Utf8.lossyChars after) := by
    rw [Utf8.toList_decodeLossy, decoded]
    simp
  rcases Text.lines_between parts whole (Text.dropReturn_of_graphic graphic) with
    ⟨earlier, lines⟩
  refine ⟨earlier, String.ofList (announced status), _, lines, ?_, ?_⟩
  · rw [Text.trim_of_graphic graphic, String.toList_ofList, announced]
  · simpa [Utf8.decodeLossy, Utf8.lossyChars] using untagged

/-! ## Without a status -/

/-- The last line that is not blank, without white space around it, or a phrase in its place. -/
inductive LastWords (lines : List String) : String → Prop where
  | line {earlier line later} (parts : lines = earlier ++ line :: later)
      (written : Text.trim line ≠ "") (blank : ∀ other ∈ later, Text.trim other = "") :
      LastWords lines (Text.trim line)
  | silence (blank : ∀ line ∈ lines, Text.trim line = "") : LastWords lines "no error output"

theorem lastWords_lastLine (text : String) : LastWords (Text.lines text) (lastLine text) := by
  unfold lastLine
  rcases found : ((Text.lines text).reverse.map Text.trim).find? (· ≠ "") with _ | words
  · apply LastWords.silence
    simpa using found
  · rw [List.find?_eq_some_iff_append] at found
    rcases found with ⟨written, later, earlier, parts, blank⟩
    rcases List.map_eq_append_iff.mp parts with ⟨last, others, lines, rfl, tail⟩
    rcases List.map_eq_cons_iff.mp tail with ⟨line, first, rfl, rfl, rfl⟩
    have order : Text.lines text = first.reverse ++ line :: last.reverse := by
      rw [List.reverse_eq_iff] at lines
      simp [lines]
    apply LastWords.line order (by simpa using written)
    simpa using blank

end Status

namespace Installer

/-- What a finished installer's result says about the installer's output. -/
structure Reports (command : String) (finished : Finished) (result : Except BridgeError Int) :
    Prop where
  /-- A status that is announced last arrives, whatever stands before it and after it. -/
  arrives : ∀ before status after,
    finished.stdout = before ++ Bytes.ofString (Status.report status) ++ after →
    (∀ line ∈ Text.lines (Utf8.decodeLossy after), ¬ Status.IsTagged line) →
    Status.least ≤ status → status ≤ Status.greatest → result = .ok status
  ok_iff : ∀ status, result = .ok status ↔
    ∃ value, Status.LastTagged (Text.lines (Utf8.decodeLossy finished.stdout)) value ∧
      Status.Denotes value status
  missing :
    (∀ value status, Status.LastTagged (Text.lines (Utf8.decodeLossy finished.stdout)) value →
      ¬ Status.Denotes value status) →
    finished.exit = .signal ∧ result = .error (.terminated command) ∨
    ∃ code detail, finished.exit = .code code ∧
      Status.LastWords (Text.lines (Utf8.decodeLossy finished.stderr)) detail ∧
      result = .error (.noStatus command code detail)

section Write

variable {env : Environment} {interpreter directory : Path} {name : String}
  {request : WriteRequest} {files : FileTree} {finished : Finished}

theorem result_of_started
    (started : (env.start files interpreter (arguments directory name request)).result =
      .ok finished) :
    ((writer env interpreter directory name).write request files).result =
      outcome (commandName name) finished := by
  simp [writer, write, started]

theorem outcome_eq_ok_iff_denotes {command : String} {status : Int} :
    outcome command finished = .ok status ↔
      ∃ value, Status.LastTagged (Text.lines (Utf8.decodeLossy finished.stdout)) value ∧
        Status.Denotes value status := by
  rw [← Status.ofOutput_eq_some_iff]
  unfold outcome
  split
  · next found => simp [found]
  · next absent =>
      rw [absent]
      split <;> simp

/-- The installer's status arrives through any noise, and nothing else is taken for it. -/
theorem write_reports
    (started : (env.start files interpreter (arguments directory name request)).result =
      .ok finished) :
    Reports (commandName name) finished
      ((writer env interpreter directory name).write request files).result := by
  rw [result_of_started started]
  constructor
  · intro before status after output untagged least greatest
    rw [outcome_eq_ok_iff_denotes, output]
    exact ⟨_, Status.lastTagged_announced before status untagged,
      Status.numeral_toString status, least, greatest⟩
  · intro status
    exact outcome_eq_ok_iff_denotes
  · intro undenoted
    have absent : Status.ofOutput (Utf8.decodeLossy finished.stdout) = none := by
      rw [Option.eq_none_iff_forall_ne_some]
      intro status found
      rcases Status.ofOutput_eq_some_iff.mp found with ⟨value, last, denotes⟩
      exact undenoted value status last denotes
    unfold outcome
    rw [absent]
    cases ended : finished.exit with
    | signal => exact Or.inl ⟨rfl, by simp [Exit.code?]⟩
    | code number =>
        right
        exact ⟨number, _, rfl, Status.lastWords_lastLine _, by simp [Exit.code?]⟩

/-! ## Starting the interpreter -/

theorem start_of_slashed {program : Path} {texts : List String}
    (slashed : '/' ∈ program.text.toList)
    (whole : ∀ text ∈ program.text :: texts, '\x00' ∉ text.toList) :
    env.start files program texts = env.startAt files program texts := by
  have named : program.text ≠ "" := by
    rintro empty
    simp [empty] at slashed
  have accepted : (program.hasNul || texts.any (·.toList.contains '\x00')) = false := by
    simpa [Path.hasNul] using whole
  rw [Environment.start, accepted]
  simp [named, slashed]

theorem notMem_ofList {c : Char} {chars : List Char} (absent : c ∉ chars) :
    c ∉ (String.ofList chars).toList := by
  simpa using absent

theorem notMem_bootstrapScript : '\x00' ∉ bootstrapScript.toList := by
  unfold bootstrapScript
  simp only [String.toList_append, List.mem_append, not_or]
  repeat' apply And.intro
  all_goals exact notMem_ofList (by decide)

/-- A program that is ended by a signal after it has announced a status between broken text. -/
def noisyEnd : Finished where
  exit := .signal
  stdout :=
    [0xE2, 0x82] ++ Bytes.ofString (Status.report (-3)) ++ Bytes.ofString "JPY_\r\nSTATUS=0"
  stderr := []

def noisyEnvironment : Environment where
  workingDirectory := []
  bindings := []
  executable := ⟨"/bin/setup"⟩
  programs _ files := (.ok noisyEnd, files)

def interpreterFiles : FileTree :=
  ⟨[(["py", "bin"], .file [] 0o755), (["bin"], .directory)]⟩

theorem write_reports_sample :
    (noisyEnvironment.start interpreterFiles ⟨"/bin/py"⟩
      (arguments ⟨"d"⟩ "m" ⟨⟨"d"⟩, none, true, false⟩)).result = .ok noisyEnd ∧
    Reports "m.write_config_files" noisyEnd
      ((writer noisyEnvironment ⟨"/bin/py"⟩ ⟨"d"⟩ "m").write ⟨⟨"d"⟩, none, true, false⟩
        interpreterFiles).result ∧
    ((writer noisyEnvironment ⟨"/bin/py"⟩ ⟨"d"⟩ "m").write ⟨⟨"d"⟩, none, true, false⟩
      interpreterFiles).result = .ok (-3) := by
  have whole : ∀ text ∈ "/bin/py" :: arguments ⟨"d"⟩ "m" ⟨⟨"d"⟩, none, true, false⟩,
      '\x00' ∉ text.toList := by
    simp only [arguments, List.forall_mem_cons]
    exact ⟨by decide, by decide, notMem_bootstrapScript, by decide⟩
  have started : (noisyEnvironment.start interpreterFiles ⟨"/bin/py"⟩
      (arguments ⟨"d"⟩ "m" ⟨⟨"d"⟩, none, true, false⟩)).result = .ok noisyEnd := by
    have located : interpreterFiles.executableAt [] ⟨"/bin/py"⟩ = .ok ["py", "bin"] := by
      decide +kernel
    have slashed : '/' ∈ (⟨"/bin/py"⟩ : Path).text.toList := by decide
    rw [start_of_slashed slashed whole]
    simp [Environment.startAt, noisyEnvironment, located]
  have reports := write_reports started
  refine ⟨started, reports, reports.arrives _ (-3) _ rfl ?_ (by decide) (by decide)⟩
  decide +kernel

end Write

end Installer

end BridgeSetup
