import BridgeSetup.FileTree.Walk
import BridgeSetup.Proofs.Text.Reading
import BridgeSetup.Zip.Entry
import Mathlib.Data.List.DropRight

/-!
# Segments of joined paths and of ancestors

Walks go by segments, so what matters about building a path is which segments it gets. A
relative path that is joined to another puts its segments after the `lead` of that other,
and an ancestor of a path has segments that the path starts with.
-/

namespace BridgeSetup

namespace Path

/-! ## Joining -/

/-- The segments of a path that stand before those of a relative path joined to it. -/
def lead (path : Path) : List String :=
  if path.text = "" then []
  else if path.text.toList.getLast? = some '/' then path.segments.dropLast
  else path.segments

theorem segments_slash (front back : String) :
    (⟨front ++ "/" ++ back⟩ : Path).segments = (⟨front⟩ : Path).segments ++
      (⟨back⟩ : Path).segments := by
  have chars : (front ++ "/" ++ back).toList = front.toList ++ '/' :: back.toList := by simp
  simp only [segments, Text.splitAt, Text.pieces_eq_splitOn, chars,
    List.splitOn_append_cons_self, List.map_append]

private theorem segments_of_slashed {path : Path}
    (slashed : path.text.toList.getLast? = some '/') :
    ∃ front, path.text = front ++ "/" ∧
      path.segments = (⟨front⟩ : Path).segments ++ [""] := by
  rcases List.getLast?_eq_some_iff.mp slashed with ⟨front, chars⟩
  have text : path.text = String.ofList front ++ "/" := by
    simp [← String.toList_inj, chars]
  refine ⟨String.ofList front, text, ?_⟩
  have whole : path = ⟨String.ofList front ++ "/" ++ ""⟩ := by
    cases path
    simpa using text
  rw [whole, segments_slash]
  simp [segments, Text.splitAt, Text.pieces]

/-- The segments of a path are its lead, and possibly an empty segment after it. -/
theorem segments_eq_lead (path : Path) :
    path.segments = path.lead ∨ path.segments = path.lead ++ [""] := by
  unfold lead
  split
  · next empty =>
      right
      simp [segments, Text.splitAt, empty, Text.pieces]
  · split
    · next slashed =>
        right
        rcases segments_of_slashed slashed with ⟨front, _, parts⟩
        simp [parts]
    · exact Or.inl rfl

theorem segments_join {base inner : Path} (relative : inner.isAbsolute = false) :
    (base.join inner).segments = base.lead ++ inner.segments := by
  unfold join lead
  simp only [relative, Bool.false_eq_true, ↓reduceIte]
  split
  · next empty =>
      have noText : base.text = "" := by
        simpa [List.getLast?_eq_none_iff] using empty
      simp [noText]
  · next slashed =>
      have someText : base.text ≠ "" := by
        rintro empty
        simp [empty] at slashed
      rcases segments_of_slashed slashed with ⟨front, text, parts⟩
      simp only [someText, ↓reduceIte, slashed, parts, List.dropLast_concat]
      rw [text, segments_slash]
  · next last notSlash ends =>
      have someText : base.text ≠ "" := by
        rintro empty
        simp [empty] at ends
      have notSlashed : ¬ base.text.toList.getLast? = some '/' := by
        rw [ends]
        simpa using notSlash
      simp only [someText, ↓reduceIte, notSlashed]
      exact segments_slash base.text inner.text

theorem join_relative (base : Path) : ∃ front, ∀ inner : Path, inner.isAbsolute = false →
    base.join inner = ⟨front ++ inner.text⟩ := by
  rcases ends : base.text.toList.getLast? with _ | last
  · refine ⟨"", ?_⟩
    intro inner relative
    simp [join, relative, ends]
  by_cases slashed : last = '/'
  · subst slashed
    refine ⟨base.text, ?_⟩
    intro inner relative
    simp [join, relative, ends]
  · refine ⟨base.text ++ "/", ?_⟩
    intro inner relative
    simp [join, relative, ends]

/-- An entry of an entry of a directory, as a single path seen from the directory. -/
theorem child_child {base : Path} {first second : String} {last : Char}
    (ends : first.toList.getLast? = some last) (notSlash : last ≠ '/')
    (firstRelative : (⟨first⟩ : Path).isAbsolute = false)
    (secondRelative : (⟨second⟩ : Path).isAbsolute = false) :
    (base.child first).child second = base.join ⟨first ++ "/" ++ second⟩ := by
  have named : first.toList ≠ [] := by
    rintro empty
    simp [empty] at ends
  have wholeRelative : (⟨first ++ "/" ++ second⟩ : Path).isAbsolute = false := by
    simp only [isAbsolute, String.toList_append, List.append_assoc,
      List.head?_append_of_ne_nil _ named] at firstRelative ⊢
    exact firstRelative
  rcases join_relative base with ⟨front, joined⟩
  rw [child, child, joined _ firstRelative, joined _ wholeRelative]
  simp [join, secondRelative, List.getLast?_append, ends, String.append_assoc]

theorem join_text_ne_empty {base inner : Path} (named : inner.text ≠ "") :
    (base.join inner).text ≠ "" := by
  unfold join
  split
  · exact named
  · split
    · exact named
    · simp [named]
    · simp

theorem isAbsolute_join {base inner : Path} (relative : inner.isAbsolute = false) :
    (base.join inner).isAbsolute = base.isAbsolute := by
  unfold join
  simp only [relative, Bool.false_eq_true, ↓reduceIte]
  split
  · next empty =>
      have noText : base.text = "" := by
        simpa [List.getLast?_eq_none_iff] using empty
      simpa [isAbsolute, noText] using relative
  all_goals
    next ends =>
      rcases chars : base.text.toList with _ | ⟨first, others⟩
      · simp [chars] at ends
      · simp [isAbsolute, chars]

theorem startFrom_join {base inner : Path} (relative : inner.isAbsolute = false)
    (here : Location) : (base.join inner).startFrom here = base.startFrom here := by
  simp [startFrom, isAbsolute_join relative]

/-- A safe name is a relative path that never climbs above its start. -/
theorem relative_of_isSafeName {name : String} (safe : Zip.isSafeName name = true) :
    (⟨name⟩ : Path).isAbsolute = false ∧
      (Zip.depthAfter 0 ((⟨name⟩ : Path).segments.filterMap component?)).isSome := by
  simp only [Zip.isSafeName, Bool.and_eq_true] at safe
  rcases safe with ⟨_, shallow⟩
  unfold components at shallow
  split at shallow
  · simp [Zip.depthAfter] at shallow
  · next relative =>
      refine ⟨by simpa using relative, ?_⟩
      split at shallow
      · next rest dotted =>
          have idle : component? "." = none := by decide
          simpa [dotted, idle, Zip.depthAfter] using shallow
      · exact shallow

/-! ## Ancestors -/

/-- A path starts where another does, and but for empty ones at the end its segments are
the first ones of the other. -/
structure IsAncestor (ancestor path : Path) : Prop where
  start : ancestor.isAbsolute = path.isAbsolute
  front : FileTree.dropEmptyEnd ancestor.segments <+: path.segments

theorem isAbsolute_iff {path : Path} :
    path.isAbsolute = true ↔ ∃ rest, rest ≠ [] ∧ path.segments = "" :: rest := by
  simp only [isAbsolute, segments, Text.splitAt, decide_eq_true_eq]
  rcases path.text.toList with _ | ⟨c, others⟩
  · simp [Text.pieces]
  · by_cases slash : c = '/'
    · simp [slash, Text.pieces, Text.pieces_ne_nil]
    · rcases parts : Text.pieces '/' others with _ | ⟨piece, more⟩
      · exact absurd parts (Text.pieces_ne_nil '/' others)
      · simp [slash, Text.pieces, parts, ← String.toList_inj]

theorem segments_written {parts : List String} (some : parts ≠ [])
    (whole : ∀ part ∈ parts, '/' ∉ part.toList) : (⟨written parts⟩ : Path).segments = parts := by
  have chars : (written parts).toList = ['/'].intercalate (parts.map String.toList) := by
    simp [written]
  rw [segments, Text.splitAt, Text.pieces_eq_splitOn, chars, List.splitOn_intercalate]
  · simp [Function.comp_def]
  · simpa using whole
  · simpa using some

theorem notMem_of_mem_segments {path : Path} {segment : String}
    (member : segment ∈ path.segments) : '/' ∉ segment.toList := by
  simp only [segments, Text.splitAt, List.mem_map] at member
  rcases member with ⟨piece, among, rfl⟩
  simpa using Text.notMem_of_mem_pieces among

theorem isAbsolute_of_whole {name : String} (whole : '/' ∉ name.toList) :
    (⟨name⟩ : Path).isAbsolute = false := by
  simp only [isAbsolute, decide_eq_false_iff_not]
  intro slashed
  exact whole (List.mem_of_head? slashed)

theorem dropIdleEnd_isPrefix (parts : List String) : dropIdleEnd parts <+: parts :=
  List.rdropWhile_prefix isIdle parts

theorem dropEmptyEnd_isPrefix (parts : List String) : FileTree.dropEmptyEnd parts <+: parts :=
  List.rdropWhile_prefix (· = "") parts

theorem IsAncestor.refl (path : Path) : IsAncestor path path :=
  ⟨rfl, dropEmptyEnd_isPrefix path.segments⟩

/-- A prefix without empty segments at its end is as well a prefix of what is left without
them. -/
theorem dropEmptyEnd_mono {shorter longer : List String}
    (front : FileTree.dropEmptyEnd shorter <+: longer) :
    FileTree.dropEmptyEnd shorter <+: FileTree.dropEmptyEnd longer := by
  rcases front with ⟨rest, rfl⟩
  simp only [FileTree.dropEmptyEnd, List.reverse_append, List.reverse_reverse,
    List.dropWhile_append]
  split
  · simp only [List.dropWhile_idempotent, List.prefix_rfl]
  · simp

theorem IsAncestor.trans {first second third : Path} (upper : IsAncestor first second)
    (lower : IsAncestor second third) : IsAncestor first third :=
  ⟨upper.start.trans lower.start, (dropEmptyEnd_mono upper.front).trans lower.front⟩

/-- The first segment of a relative path is not empty, unless it is the only one. -/
private theorem isAbsolute_written {first : String} {rest kept : List String} {path : Path}
    (parts : path.segments = first :: rest) (some : kept ≠ []) (front : kept <+: rest) :
    (⟨written (first :: kept)⟩ : Path).isAbsolute = path.isAbsolute := by
  have whole : ∀ part ∈ first :: kept, '/' ∉ part.toList := by
    intro part member
    have among : part ∈ path.segments := by
      rw [parts]
      exact (List.prefix_cons_inj first |>.mpr front).subset member
    exact notMem_of_mem_segments among
  have restSome : rest ≠ [] := by
    rintro rfl
    exact some (List.prefix_nil.mp front)
  rw [Bool.eq_iff_iff, isAbsolute_iff, isAbsolute_iff, segments_written (by simp) whole, parts]
  simp [some, restSome]

theorem isAncestor_of_parent {path up : Path} (isParent : path.parent = some up) :
    IsAncestor up path := by
  unfold parent at isParent
  split at isParent
  · cases isParent
  split at isParent
  · cases isParent
  next first rest parts =>
  split at isParent
  · split at isParent
    · cases isParent
    · next relative =>
        cases isParent
        refine ⟨by simpa [isAbsolute] using relative, ?_⟩
        simp [segments, Text.splitAt, Text.pieces, FileTree.dropEmptyEnd]
  next step steps inner =>
  have front : dropIdleEnd (step :: steps).dropLast <+: rest := by
    have shorter : (step :: steps).dropLast <+: dropIdleEnd rest := inner ▸ List.dropLast_prefix _
    exact (dropIdleEnd_isPrefix _).trans (shorter.trans (dropIdleEnd_isPrefix rest))
  have whole : ∀ part ∈ first :: dropIdleEnd (step :: steps).dropLast,
      '/' ∉ part.toList := by
    intro part member
    have among : part ∈ path.segments := by
      rw [parts]
      exact (List.prefix_cons_inj first |>.mpr front).subset member
    exact notMem_of_mem_segments among
  split at isParent
  · split at isParent
    · next absolute =>
        cases isParent
        refine ⟨absolute.symm ▸ by decide, ?_⟩
        have none : FileTree.dropEmptyEnd (⟨"/"⟩ : Path).segments = [] := by decide
        simp [none]
    · next relative =>
        cases isParent
        have only : (⟨first⟩ : Path).segments = [first] := by
          have alone := @segments_written [first] (by simp)
            (by simpa using whole first List.mem_cons_self)
          simpa [written] using alone
        simp only [Bool.not_eq_true] at relative
        refine ⟨?_, ?_⟩
        · have alone : ¬ (⟨first⟩ : Path).isAbsolute = true := by
            simp [isAbsolute_iff, only]
          rw [relative, Bool.eq_false_iff]
          exact alone
        · rw [only, parts]
          exact (dropEmptyEnd_isPrefix _).trans (List.prefix_cons_inj first |>.mpr List.nil_prefix)
  · next kept notNil =>
      cases isParent
      refine ⟨isAbsolute_written parts notNil front, ?_⟩
      rw [segments_written (by simp) whole, parts]
      exact (dropEmptyEnd_isPrefix _).trans (List.prefix_cons_inj first |>.mpr front)

theorem isAncestor_of_mem_ancestors {path ancestor : Path}
    (member : ancestor ∈ path.ancestors) : IsAncestor ancestor path := by
  have within (steps : Nat) : ∀ {path : Path}, ancestor ∈ ancestorsWithin steps path →
      IsAncestor ancestor path := by
    induction steps with
    | zero => simp [ancestorsWithin]
    | succ steps ih =>
        intro path member
        unfold ancestorsWithin at member
        rcases List.mem_cons.mp member with rfl | later
        · exact .refl ancestor
        · split at later
          · cases later
          · next up isParent => exact (ih later).trans (isAncestor_of_parent isParent)
  exact within _ member

theorem segments_of_whole {name : String} (whole : '/' ∉ name.toList) :
    (⟨name⟩ : Path).segments = [name] := by
  have alone : written [name] = name := by simp [written]
  have parts := segments_written (List.cons_ne_nil name []) (by simpa using whole)
  rwa [alone] at parts

/-- A segment of three characters or more is a name. -/
theorem component?_of_long {segment : String} (long : 2 < segment.toList.length) :
    component? segment = some (.normal segment) := by
  have apart {other : String} (short : other.toList.length ≤ 2) : segment ≠ other := by
    rintro rfl
    omega
  have notEmpty := @apart "" (by decide)
  have notDot := @apart "." (by decide)
  have notDots := @apart ".." (by decide)
  simp [component?, isIdle, notEmpty, notDot, notDots]

/-- A path whose last segment is a name ends with that name. -/
theorem fileName_of_getLast? {path : Path} {name : String}
    (ends : path.segments.getLast? = some name)
    (normal : component? name = some (.normal name)) : path.fileName = some name := by
  rcases List.getLast?_eq_some_iff.mp ends with ⟨front, parts⟩
  have last (earlier : List String) :
      ((earlier ++ [name]).filterMap component?).getLast? = some (.normal name) := by
    simp [normal]
  have finishes : path.components.getLast? = some (.normal name) := by
    unfold components
    rw [parts]
    split
    · rw [List.getLast?_cons, last]
      rfl
    · split
      · next rest dotted =>
        -- The leading dot is not the name, because a dot is no name.
        rcases front with _ | ⟨first, others⟩
        · cases dotted
          cases normal
        · rw [List.cons_append, List.cons.injEq] at dotted
          rw [← dotted.2, List.getLast?_cons, last]
          rfl
      · exact last _
  rw [fileName, finishes]

/-- A path ends with the name with which a relative path that was joined to it ends. -/
theorem fileName_join (base : Path) {inner : Path} {name : String}
    (relative : inner.isAbsolute = false) (ends : inner.segments.getLast? = some name)
    (normal : component? name = some (.normal name)) : (base.join inner).fileName = some name := by
  refine fileName_of_getLast? ?_ normal
  rw [segments_join relative, List.getLast?_append, ends]
  rfl

/-- A directory's entry has the name that it was given. -/
theorem fileName_child (base : Path) {name : String}
    (normal : component? name = some (.normal name)) (whole : '/' ∉ name.toList) :
    (base.child name).fileName = some name := by
  refine fileName_join base (isAbsolute_of_whole whole) ?_ normal
  rw [segments_of_whole whole]
  rfl

theorem components_ne_of_fileName_ne {first second : Path}
    (different : first.fileName ≠ second.fileName) : first.components ≠ second.components := by
  intro same
  exact different (by rw [fileName, fileName, same])

end Path

end BridgeSetup
