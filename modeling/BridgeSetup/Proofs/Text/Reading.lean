import BridgeSetup.Text.Blank
import BridgeSetup.Text.Lines
import BridgeSetup.Text.Utf8

/-!
# Reading bytes that may be no text

The output of a program need not be text. Decoding replaces what is broken, and an unfinished
character cannot swallow an ASCII byte: the decoder gives the character up and reads that byte
again from the start. So the bytes before ASCII text and those after it are decoded as if they
stood alone (`decode_around`).

A line feed separates lines in the same way (`lines_around`): the lines after it depend on what
follows it only.
-/

namespace BridgeSetup

namespace Utf8

/-- No ASCII byte can continue the character that is being read. -/
def Partial.IsInner (state : Partial) : Prop :=
  0x80 ≤ state.lowest

theorem isInner_of_start {byte : UInt8} {state : Partial} (more : start byte = .more state) :
    state.IsInner := by
  unfold start at more
  grind [Partial.IsInner]

theorem isInner_of_next {state next : Partial} {byte : UInt8}
    (more : state.next byte = .more next) : next.IsInner := by
  unfold Partial.next at more
  grind [Partial.IsInner]

theorem start_ascii {byte : UInt8} (ascii : byte.toNat < 0x80) :
    start byte = .complete (Char.ofNat byte.toNat) := by
  simp [start, ascii]

theorem Partial.next_ascii {state : Partial} {byte : UInt8} (inner : state.IsInner)
    (ascii : byte.toNat < 0x80) : state.next byte = .broken := by
  simp only [IsInner] at inner
  simp only [next]
  split
  · omega
  · rfl

/-- The byte that ends a broken part is read again from the start. -/
theorem decodeFrom_of_broken {state : Partial} {byte : UInt8} (broken : state.next byte = .broken)
    (rest : Bytes) :
    decodeFrom (some state) (byte :: rest) = none :: decodeFrom none (byte :: rest) := by
  simp [decodeFrom, broken]

/-- The decoder stands between two characters before an ASCII byte, and after it. -/
theorem decodeFrom_around {byte : UInt8} (ascii : byte.toNat < 0x80) (after : Bytes) :
    ∀ (before : Bytes) (state : Option Partial), (∀ inside ∈ state, inside.IsInner) →
      decodeFrom state (before ++ byte :: after) =
        decodeFrom state before ++ some (Char.ofNat byte.toNat) :: decodeFrom none after := by
  intro before
  induction before with
  | nil =>
      intro state inner
      cases state with
      | none => simp [decodeFrom, start_ascii ascii]
      | some inside =>
          have broken := Partial.next_ascii (inner inside rfl) ascii
          simp [decodeFrom, broken, start_ascii ascii]
  | cons first before ih =>
      have between := ih none (by simp)
      have within {next : Partial} (inner : next.IsInner) := ih (some next) (by simpa)
      have afresh : decodeFrom none (first :: (before ++ byte :: after)) =
          decodeFrom none (first :: before) ++
            some (Char.ofNat byte.toNat) :: decodeFrom none after := by
        rcases started : start first with c | next | _
        · simp [decodeFrom, started, between]
        · simp [decodeFrom, started, within (isInner_of_start started)]
        · simp [decodeFrom, started, between]
      intro state inner
      rw [List.cons_append]
      cases state with
      | none => exact afresh
      | some inside =>
          rcases continued : inside.next first with c | next | _
          · simp [decodeFrom, continued, between]
          · simp [decodeFrom, continued, within (isInner_of_next continued)]
          · simp [decodeFrom_of_broken continued, afresh]

theorem utf8EncodeChar_ascii {c : Char} (ascii : c.toNat < 0x80) :
    String.utf8EncodeChar c = [c.toNat.toUInt8] := by
  have small : c.utf8Size = 1 := by
    rw [Char.utf8Size_eq_one_iff, UInt32.le_iff_toNat_le]
    change c.toNat ≤ 127
    omega
  rw [String.utf8EncodeChar_eq_singleton small]
  rfl

/-- Bytes before ASCII text and after it are decoded as if they stood alone. -/
theorem decode_around {text : List Char} (ascii : ∀ c ∈ text, c.toNat < 0x80)
    (written : text ≠ []) (before after : Bytes) :
    decode (before ++ text.flatMap String.utf8EncodeChar ++ after) =
      decode before ++ text.map some ++ decode after := by
  induction text generalizing before with
  | nil => exact absurd rfl written
  | cons c rest ih =>
      have small : c.toNat < 0x80 := ascii c (by simp)
      have byte : c.toNat.toUInt8.toNat = c.toNat := by
        simp
        omega
      have around := @decodeFrom_around c.toNat.toUInt8 (by omega)
        (rest.flatMap String.utf8EncodeChar ++ after) before none (by simp)
      rw [byte, Char.ofNat_toNat] at around
      have later : decode (rest.flatMap String.utf8EncodeChar ++ after) =
          rest.map some ++ decode after := by
        rcases rest with _ | ⟨next, others⟩
        · rfl
        · have onward := ih (fun d member => ascii d (by simp [member])) (by simp) []
          simpa [decode, decodeFrom] using onward
      simp only [decode] at later ⊢
      simp [utf8EncodeChar_ascii small, around, later]

/-- The characters of a byte sequence, with `U+FFFD` for each broken part. -/
def lossyChars (bytes : Bytes) : List Char :=
  (decode bytes).map (·.getD replacement)

@[simp]
theorem toList_decodeLossy (bytes : Bytes) : (decodeLossy bytes).toList = lossyChars bytes := by
  simp [decodeLossy, lossyChars]

theorem lossyChars_around {text : String} (ascii : ∀ c ∈ text.toList, c.toNat < 0x80)
    (written : text ≠ "") (before after : Bytes) :
    lossyChars (before ++ Bytes.ofString text ++ after) =
      lossyChars before ++ text.toList ++ lossyChars after := by
  have around := decode_around ascii (by simpa using written) before after
  simp only [lossyChars, Bytes.ofString, around, List.map_append, List.map_map]
  simp [Function.comp_def]

end Utf8

namespace Text

theorem pieces_eq_splitOn (separator : Char) (chars : List Char) :
    pieces separator chars = chars.splitOn separator := by
  induction chars with
  | nil => rfl
  | cons c rest ih =>
      rw [pieces, List.splitOn_cons_eq_if_modifyHead, ← ih]
      by_cases same : c = separator
      · simp [same]
      · rcases parts : pieces separator rest with _ | ⟨piece, others⟩
        · exact absurd parts (pieces_ne_nil separator rest)
        · simp [same]

theorem notMem_of_mem_pieces {separator : Char} {chars : List Char} :
    ∀ {piece : List Char}, piece ∈ pieces separator chars → separator ∉ piece := by
  induction chars with
  | nil => simp [pieces]
  | cons c rest ih =>
      intro piece member
      unfold pieces at member
      split at member
      · rcases List.mem_cons.mp member with rfl | later
        · simp
        · exact ih later
      · next different =>
          split at member
          · next parts => exact absurd parts (pieces_ne_nil separator rest)
          · next front others parts =>
              rcases List.mem_cons.mp member with rfl | later
              · have kept := ih (parts ▸ List.mem_cons_self)
                simp [kept, Ne.symm different]
              · exact ih (parts ▸ List.mem_cons_of_mem front later)

theorem pieces_append_cons (separator : Char) (front back : List Char) :
    pieces separator (front ++ separator :: back) =
      pieces separator front ++ pieces separator back := by
  simp [pieces_eq_splitOn, List.splitOn_append_cons_self]

theorem pieces_of_notMem {separator : Char} {chars : List Char} (whole : separator ∉ chars) :
    pieces separator chars = [chars] := by
  induction chars with
  | nil => rfl
  | cons c rest ih =>
      simp only [List.mem_cons, not_or] at whole
      simp [pieces, ih whole.2, Ne.symm whole.1]

/-- A text is cut where a separator occurs for the last time. -/
theorem exists_last_separator {separator : Char} {chars : List Char}
    (member : separator ∈ chars) :
    ∃ front back, chars = front ++ separator :: back ∧ separator ∉ back := by
  rcases List.eq_append_cons_of_mem (List.mem_reverse.mpr member) with
    ⟨back, front, parts, whole⟩
  refine ⟨front.reverse, back.reverse, ?_, by simpa using whole⟩
  rw [List.reverse_eq_iff] at parts
  simp [parts]

/-- What is added without a separator belongs to the last piece. -/
theorem getLast?_pieces_append {separator : Char} {ending : List Char}
    (whole : separator ∉ ending) (front : List Char) :
    ∃ last, (pieces separator (front ++ ending)).getLast? = some (last ++ ending) := by
  by_cases member : separator ∈ front
  · rcases exists_last_separator member with ⟨earlier, last, rfl, wholeLast⟩
    have lastPiece : separator ∉ last ++ ending := by
      simp [whole, wholeLast]
    refine ⟨last, ?_⟩
    rw [List.append_assoc, List.cons_append, pieces_append_cons, pieces_of_notMem lastPiece]
    simp
  · have onePiece : separator ∉ front ++ ending := by
      simp [whole, member]
    exact ⟨front, by simp [pieces_of_notMem onePiece]⟩

theorem endedLines_append (front : List (List Char)) {back : List (List Char)}
    (more : back ≠ []) :
    endedLines (front ++ back) = front.map dropReturn ++ endedLines back := by
  induction front with
  | nil => rfl
  | cons line rest ih =>
      rcases following : rest ++ back with _ | ⟨next, others⟩
      · simp_all
      · rw [List.cons_append, following, endedLines, ← following, ih]
        rfl

/-- The lines after a line feed are those of what follows it. -/
theorem lines_around {text : String} {front back : List Char}
    (parts : text.toList = front ++ '\n' :: back) :
    lines text = (pieces '\n' front).map (String.ofList ∘ dropReturn) ++
      lines (String.ofList back) := by
  simp [lines, parts, pieces_append_cons, endedLines_append _ (pieces_ne_nil '\n' back)]

/-- What stands between two line feeds is a line. -/
theorem lines_between {text : String} {front line back : List Char}
    (parts : text.toList = front ++ '\n' :: (line ++ '\n' :: back)) (whole : '\n' ∉ line)
    (clean : dropReturn line = line) :
    ∃ earlier, lines text = earlier ++ String.ofList line :: lines (String.ofList back) := by
  have rest : lines (String.ofList (line ++ '\n' :: back)) =
      String.ofList line :: lines (String.ofList back) := by
    rw [lines_around (String.toList_ofList)]
    simp [pieces_of_notMem whole, clean]
  refine ⟨(pieces '\n' front).map (String.ofList ∘ dropReturn), ?_⟩
  rw [lines_around parts, rest]

/-! ## Visible characters -/

/-- A visible ASCII character. -/
structure IsGraphic (c : Char) : Prop where
  visible : 0x21 ≤ c.toNat
  plain : c.toNat ≤ 0x7E

instance (c : Char) : Decidable (IsGraphic c) :=
  decidable_of_iff (0x21 ≤ c.toNat ∧ c.toNat ≤ 0x7E)
    ⟨fun both => ⟨both.1, both.2⟩, fun graphic => ⟨graphic.visible, graphic.plain⟩⟩

section Graphic

variable {c : Char} {chars : List Char}

theorem IsGraphic.ascii (graphic : IsGraphic c) : c.toNat < 0x80 :=
  Nat.lt_of_le_of_lt graphic.plain (by decide)

theorem IsGraphic.notBlank (graphic : IsGraphic c) : isBlank c = false := by
  rcases graphic with ⟨visible, plain⟩
  simp [isBlank, blankRanges]
  omega

theorem IsGraphic.ne_of_blank (graphic : IsGraphic c) {blank : Char}
    (white : isBlank blank = true) : c ≠ blank := by
  rintro rfl
  simp [graphic.notBlank] at white

theorem dropBlanks_of_graphic (graphic : ∀ c ∈ chars, IsGraphic c) : dropBlanks chars = chars := by
  rcases chars with _ | ⟨first, rest⟩
  · rfl
  · simp [dropBlanks, (graphic first (by simp)).notBlank]

theorem trim_of_graphic (graphic : ∀ c ∈ chars, IsGraphic c) :
    trim (String.ofList chars) = String.ofList chars := by
  have backwards : dropBlanks chars.reverse = chars.reverse :=
    dropBlanks_of_graphic (by simpa using graphic)
  simp [trim, dropFinalBlanks, dropBlanks_of_graphic graphic, backwards]

theorem dropReturn_of_graphic (graphic : ∀ c ∈ chars, IsGraphic c) : dropReturn chars = chars := by
  unfold dropReturn
  split
  · next rest ends =>
      have member : '\r' ∈ chars := by
        rw [← List.mem_reverse, ends]
        exact List.mem_cons_self
      exact absurd rfl ((graphic _ member).ne_of_blank (by decide))
  · rfl

end Graphic

end Text

end BridgeSetup
