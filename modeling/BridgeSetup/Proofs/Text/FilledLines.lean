import BridgeSetup.Proofs.Text.Reading
import Mathlib.Data.List.DropRight

/-!
# Lines that are not blank

A text can carry a list of fields, one on a line, with white space around each and any number of
blank lines between them. `Written` is the grammar of such texts, with one rule for each kind of
line, and reading is cutting the text at its line feeds, trimming what is between them, and
leaving out what is empty then (`filledLines`). Both agree: every text carries one list of fields,
and reading finds it (`filledLines_eq_iff`).

A carriage return is white space, so trimming makes no difference between the two line ends. A
line feed is white space as well, but around a field it makes a blank line.
-/

namespace BridgeSetup.Text

/-! ## Trimming -/

def IsWhite (chars : List Char) : Prop :=
  ∀ c ∈ chars, isBlank c = true

theorem isWhite_return : IsWhite ['\r'] :=
  List.forall_mem_singleton.mpr rfl

/-- There is no white space at either end. -/
structure IsTrimmed (chars : List Char) : Prop where
  first : ∀ c ∈ chars.head?, isBlank c = false
  last : ∀ c ∈ chars.getLast?, isBlank c = false

section Trim

variable {chars before after : List Char}

theorem trim_of_white (white : IsWhite chars) : trim (String.ofList chars) = "" := by
  have nothing : dropBlanks chars = [] := List.dropWhile_eq_nil_iff.mpr white
  rw [trim, String.toList_ofList, nothing]
  rfl

theorem dropFinalBlanks_append (white : IsWhite after) (chars : List Char) :
    dropFinalBlanks (chars ++ after) = dropFinalBlanks chars := by
  have backwards : ∀ c ∈ after.reverse, isBlank c = true := by
    simpa [IsWhite] using white
  rw [dropFinalBlanks, List.reverse_append, dropBlanks, List.dropWhile_append_of_pos backwards]
  rfl

theorem trim_append_white (white : IsWhite after) (chars : List Char) :
    trim (String.ofList (chars ++ after)) = trim (String.ofList chars) := by
  simp only [trim, String.toList_ofList]
  rcases rest : dropBlanks chars with _ | ⟨c, others⟩
  · have nothing : dropBlanks (chars ++ after) = [] := by
      rw [dropBlanks, List.dropWhile_append_of_pos (List.dropWhile_eq_nil_iff.mp rest)]
      exact List.dropWhile_eq_nil_iff.mpr white
    rw [nothing]
  · have something : dropBlanks (chars ++ after) = (c :: others) ++ after := by
      rw [dropBlanks, List.dropWhile_append, ← dropBlanks, rest]
      rfl
    rw [something, dropFinalBlanks_append white]

theorem trim_white_append (white : IsWhite before) (chars : List Char) :
    trim (String.ofList (before ++ chars)) = trim (String.ofList chars) := by
  simp only [trim, String.toList_ofList, dropBlanks, List.dropWhile_append_of_pos white]

theorem IsTrimmed.trim_eq (trimmed : IsTrimmed chars) :
    trim (String.ofList chars) = String.ofList chars := by
  have kept {chars : List Char} (first : ∀ c ∈ chars.head?, isBlank c = false) :
      dropBlanks chars = chars := by
    rcases chars with _ | ⟨c, others⟩
    · rfl
    · simp [dropBlanks, first c rfl]
  have keptBackwards : dropBlanks chars.reverse = chars.reverse := by
    apply kept
    simpa using trimmed.last
  rw [trim, String.toList_ofList, kept trimmed.first, dropFinalBlanks, keptBackwards,
    List.reverse_reverse]

theorem isTrimmed_trim (text : String) : IsTrimmed (trim text).toList := by
  simp only [trim, String.toList_ofList]
  constructor
  · intro c starts
    have front : dropFinalBlanks (dropBlanks text.toList) <+: dropBlanks text.toList :=
      List.rdropWhile_prefix isBlank _
    rcases front with ⟨removed, parts⟩
    have first : (dropBlanks text.toList).head? = some c := by
      rw [← parts, List.head?_append, Option.mem_def.mp starts]
      rfl
    have stopped := List.head?_dropWhile_not isBlank text.toList
    rw [← dropBlanks, first] at stopped
    exact stopped
  · intro c ends
    have backwards : (dropBlanks (dropBlanks text.toList).reverse).head? = some c := by
      simpa [dropFinalBlanks] using ends
    have stopped := List.head?_dropWhile_not isBlank (dropBlanks text.toList).reverse
    rw [← dropBlanks, backwards] at stopped
    exact stopped

/-- Trimming removes white space before and after what it leaves. -/
theorem exists_padding (text : String) :
    ∃ before after, text.toList = before ++ (trim text).toList ++ after ∧ IsWhite before ∧
      IsWhite after := by
  refine ⟨text.toList.takeWhile isBlank, (dropBlanks text.toList).rtakeWhile isBlank, ?_,
    fun _ => List.mem_takeWhile_imp, ?_⟩
  · have split : (trim text).toList ++ (dropBlanks text.toList).rtakeWhile isBlank =
        dropBlanks text.toList := by
      rw [trim, String.toList_ofList]
      exact List.rdropWhile_append_rtakeWhile
    rw [List.append_assoc, split]
    exact List.takeWhile_append_dropWhile.symm
  · intro c member
    rw [List.rtakeWhile, List.mem_reverse] at member
    exact List.mem_takeWhile_imp member

end Trim

/-! ## Fields on lines -/

/-- A text that can stand on a line as a field. -/
structure IsField (field : String) : Prop where
  filled : field ≠ ""
  whole : '\n' ∉ field.toList
  trimmed : IsTrimmed field.toList

/-- White space within a line. -/
structure IsPadding (chars : List Char) : Prop where
  white : IsWhite chars
  whole : '\n' ∉ chars

/-- A line with a field on it, and white space around the field. -/
inductive Pads (field : String) : List Char → Prop where
  | around {before after} (proper : IsField field) (left : IsPadding before)
      (right : IsPadding after) : Pads field (before ++ field.toList ++ after)

/-- What ends a line. -/
inductive IsLineEnd : List Char → Prop where
  | feed : IsLineEnd ['\n']
  | returned : IsLineEnd ['\r', '\n']

/-- The text carries the fields, one on a line. The last line need not be ended. -/
inductive Written : List String → List Char → Prop where
  | lastBlank {line} (padding : IsPadding line) : Written [] line
  | lastField {field line} (padded : Pads field line) : Written [field] line
  | blank {fields line ending rest} (padding : IsPadding line) (ends : IsLineEnd ending)
      (onward : Written fields rest) : Written fields (line ++ ending ++ rest)
  | field {field fields line ending rest} (padded : Pads field line) (ends : IsLineEnd ending)
      (onward : Written fields rest) : Written (field :: fields) (line ++ ending ++ rest)

/-- The lines of a text that are not blank, without white space around them. -/
def filledLines (text : String) : List String :=
  ((splitAt '\n' text).map trim).filter (· ≠ "")

theorem filledLines_feed (front back : List Char) :
    filledLines (String.ofList (front ++ '\n' :: back)) =
      filledLines (String.ofList front) ++ filledLines (String.ofList back) := by
  simp [filledLines, splitAt, pieces_append_cons]

theorem filledLines_of_whole {line : List Char} (whole : '\n' ∉ line) :
    filledLines (String.ofList line) = [trim (String.ofList line)].filter (· ≠ "") := by
  simp [filledLines, splitAt, pieces_of_notMem whole]

theorem IsPadding.filledLines_eq {line : List Char} (padding : IsPadding line) :
    filledLines (String.ofList line) = [] := by
  rw [filledLines_of_whole padding.whole, trim_of_white padding.white]
  rfl

theorem Pads.whole {field : String} {line : List Char} (padded : Pads field line) :
    '\n' ∉ line := by
  cases padded with
  | around proper left right => simp [proper.whole, left.whole, right.whole]

theorem Pads.filledLines_eq {field : String} {line : List Char} (padded : Pads field line) :
    filledLines (String.ofList line) = [field] := by
  rw [filledLines_of_whole padded.whole]
  cases padded with
  | around proper left right =>
      rw [trim_append_white right.white, trim_white_append left.white, proper.trimmed.trim_eq,
        String.ofList_toList]
      simp [proper.filled]

/-- A carriage return before a line feed makes no difference. -/
theorem filledLines_ended {line ending : List Char} (whole : '\n' ∉ line)
    (ends : IsLineEnd ending) (rest : List Char) :
    filledLines (String.ofList (line ++ ending ++ rest)) =
      filledLines (String.ofList line) ++ filledLines (String.ofList rest) := by
  cases ends with
  | feed => simpa using filledLines_feed line rest
  | returned =>
      have wholeToo : '\n' ∉ line ++ ['\r'] := by
        simp [whole]
      have cut := filledLines_feed (line ++ ['\r']) rest
      rw [filledLines_of_whole wholeToo, trim_append_white isWhite_return,
        ← filledLines_of_whole whole] at cut
      simpa using cut

theorem Written.filledLines_eq {fields : List String} {chars : List Char}
    (written : Written fields chars) : filledLines (String.ofList chars) = fields := by
  induction written with
  | lastBlank padding => exact padding.filledLines_eq
  | lastField padded => exact padded.filledLines_eq
  | blank padding ends _ ih =>
      rw [filledLines_ended padding.whole ends, padding.filledLines_eq, ih]
      rfl
  | field padded ends _ ih =>
      rw [filledLines_ended padded.whole ends, padded.filledLines_eq, ih]
      rfl

/-- A line is blank, or it has a field on it. -/
theorem padding_or_pads {line : List Char} (whole : '\n' ∉ line) :
    trim (String.ofList line) = "" ∧ IsPadding line ∨
      trim (String.ofList line) ≠ "" ∧ Pads (trim (String.ofList line)) line := by
  rcases exists_padding (String.ofList line) with ⟨before, after, parts, left, right⟩
  rw [String.toList_ofList] at parts
  by_cases blank : trim (String.ofList line) = ""
  · left
    refine ⟨blank, ?_, whole⟩
    rw [blank] at parts
    rw [parts]
    intro c member
    simp only [String.toList_empty, List.append_nil, List.mem_append] at member
    exact member.elim (left c) (right c)
  · right
    have around : '\n' ∉ before ++ (trim (String.ofList line)).toList ++ after := parts ▸ whole
    simp only [List.mem_append, not_or] at around
    rcases around with ⟨⟨wholeLeft, wholeField⟩, wholeRight⟩
    have padded := Pads.around ⟨blank, wholeField, isTrimmed_trim _⟩ ⟨left, wholeLeft⟩
      ⟨right, wholeRight⟩
    rw [← parts] at padded
    exact ⟨blank, padded⟩

theorem written_intercalate {lines : List (List Char)} (some : lines ≠ [])
    (whole : ∀ line ∈ lines, '\n' ∉ line) :
    Written ((lines.map (trim ∘ String.ofList)).filter (· ≠ "")) (['\n'].intercalate lines) := by
  induction lines with
  | nil => exact absurd rfl some
  | cons line others ih =>
      have shape := padding_or_pads (whole line List.mem_cons_self)
      rcases others with _ | ⟨next, rest⟩
      · rcases shape with ⟨blank, padding⟩ | ⟨filled, padded⟩
        · simpa [blank] using Written.lastBlank padding
        · simpa [filled] using Written.lastField padded
      · have onward := ih (by simp) fun other member =>
          whole other (List.mem_cons_of_mem line member)
        rw [List.intercalate_cons_cons, List.map_cons, List.filter_cons]
        rcases shape with ⟨blank, padding⟩ | ⟨filled, padded⟩
        · simpa [blank] using Written.blank padding .feed onward
        · simpa [filled] using Written.field padded .feed onward

/-- Reading finds the fields with which a text is written, and no others. -/
theorem filledLines_eq_iff {text : String} {fields : List String} :
    filledLines text = fields ↔ Written fields text.toList := by
  constructor
  · rintro rfl
    have written := written_intercalate (pieces_ne_nil '\n' text.toList)
      fun line member => notMem_of_mem_pieces member
    rw [pieces_eq_splitOn, List.intercalate_splitOn, ← pieces_eq_splitOn] at written
    simpa [filledLines, splitAt, Function.comp_def] using written
  · intro written
    simpa using written.filledLines_eq

theorem Written.isField {fields : List String} {chars : List Char}
    (written : Written fields chars) : ∀ field ∈ fields, IsField field := by
  have padded {field : String} {line : List Char} (pads : Pads field line) : IsField field := by
    cases pads with
    | around proper _ _ => exact proper
  induction written with
  | lastBlank _ => simp
  | lastField pads => simpa using padded pads
  | blank _ _ _ ih => exact ih
  | field pads _ _ ih => exact List.forall_mem_cons.mpr ⟨padded pads, ih⟩

end BridgeSetup.Text
