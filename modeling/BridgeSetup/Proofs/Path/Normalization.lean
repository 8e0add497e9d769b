import BridgeSetup.Proofs.Path.Reduction

/-!
# Lexical normalization

The canonical spelling of a path can be built in place: the path that is being built takes in one
component after the other, and looks at its own last component when it meets two dots. What it
holds then is the text of the names that are kept (`takeIn_name`, `takeIn_parent`), and so the
loop and `normalize` agree (`normalizeInPlace_eq`).

A path has only one text for its segments (`eq_of_segments`). The laws of canonical spellings are
therefore laws of the kept names, which are the same for a path and for its canonical spelling
(`kept_normalize`).
-/

namespace BridgeSetup.Path

/-! ## Texts and segments -/

theorem written_segments (path : Path) : written path.segments = path.text := by
  rw [← String.toList_inj]
  simp [written, segments, Text.splitAt, Text.pieces_eq_splitOn, Function.comp_def]

theorem text_eq_empty_iff {path : Path} : path.text = "" ↔ path.segments = [""] := by
  constructor
  · intro none
    simp [segments, none, Text.splitAt, Text.pieces]
  · intro parts
    rw [← written_segments, parts]
    rfl

/-- A path is known by its segments. -/
theorem eq_of_segments {first second : Path} (same : first.segments = second.segments) :
    first = second := by
  have text : first.text = second.text := by
    rw [← written_segments, same, written_segments]
  cases first
  cases second
  simpa using text

theorem dropIdleEnd_of_notIdle {parts : List String}
    (named : ∀ part ∈ parts, isIdle part = false) : dropIdleEnd parts = parts := by
  have kept : parts.reverse.dropWhile isIdle = parts.reverse := by
    rw [List.dropWhile_eq_self_iff]
    intro some
    have last := named _ (List.mem_reverse.mp (List.getElem_mem some))
    simpa only [Bool.not_eq_true] using last
  rw [dropIdleEnd, kept, List.reverse_reverse]

theorem parent_of_alone {path : Path} {name : String} (parts : path.segments = [name])
    (named : isIdle name = false) : path.parent = some ⟨""⟩ := by
  have relative : ¬ path.isAbsolute = true := by
    simp [isAbsolute_iff, parts]
  have texted : path.text ≠ "" := by
    rw [Ne, text_eq_empty_iff, parts, List.singleton_inj]
    rintro rfl
    cases named
  simp [parent, texted, parts, dropIdleEnd, relative]

/-- The parent of a path with more than one segment, of which only the first can be idle. -/
theorem parent_of_segments {path : Path} {first last : String} {names : List String}
    (parts : path.segments = first :: (names ++ [last]))
    (named : ∀ name ∈ names ++ [last], isIdle name = false) :
    ∃ up, path.parent = some up ∧ up.segments =
      if names = [] ∧ path.isAbsolute = true then ["", ""] else first :: names := by
  have whole {name : String} (member : name ∈ first :: (names ++ [last])) : '/' ∉ name.toList :=
    notMem_of_mem_segments (parts ▸ member)
  have texted : path.text ≠ "" := by
    simp [text_eq_empty_iff, parts]
  have inner : ∀ name ∈ names, isIdle name = false := by
    intro name member
    exact named name (List.mem_append_left [last] member)
  rcases more : names ++ [last] with _ | ⟨step, steps⟩
  · simp at more
  have front : dropIdleEnd (step :: steps).dropLast = names := by
    rw [← more, List.dropLast_concat, dropIdleEnd_of_notIdle inner]
  rw [more] at parts named
  simp only [parent, texted, ↓reduceIte, parts, dropIdleEnd_of_notIdle named, front]
  rcases names with _ | ⟨name, others⟩
  · cases path.isAbsolute with
    | true => exact ⟨⟨"/"⟩, rfl, rfl⟩
    | false => exact ⟨⟨first⟩, rfl, by simpa using segments_of_whole (whole List.mem_cons_self)⟩
  · refine ⟨⟨written (first :: name :: others)⟩, rfl, ?_⟩
    have parts := @segments_written (first :: name :: others) (by simp) ?_
    · simpa using parts
    · intro part member
      refine whole ?_
      rw [← List.cons_append]
      exact List.mem_append_left [last] member

/-! ## The text of kept names -/

/-- The path with some names, which has no text if it is relative and there are none. -/
def spelled (absolute : Bool) (names : List String) : Path :=
  ⟨(if absolute then "/" else "") ++ written names⟩

section KeptNames

variable {absolute : Bool} {kept : List String} {name : String}

theorem segments_spelled (settled : Settled absolute kept) :
    (spelled absolute kept.reverse).segments =
      (if absolute then [""] else []) ++ if kept = [] then [""] else kept.reverse := by
  have names : (⟨written kept.reverse⟩ : Path).segments =
      if kept = [] then [""] else kept.reverse := by
    split
    · next none =>
        subst none
        rfl
    · next some =>
        refine segments_written (by simpa using some) ?_
        intro part member
        exact (settled.mem (List.mem_reverse.mp member)).2
  cases absolute with
  | false => simpa [spelled] using names
  | true =>
      have empty : (⟨""⟩ : Path).segments = [""] := rfl
      simpa [spelled, names, empty] using segments_slash "" (written kept.reverse)

theorem mem_of_mem_spelled (settled : Settled absolute kept) {segment : String}
    (some : segment ≠ "") (member : segment ∈ (spelled absolute kept.reverse).segments) :
    segment ∈ kept := by
  rw [segments_spelled settled] at member
  by_cases none : kept = [] <;> cases absolute <;> simp_all

theorem isAbsolute_spelled (settled : Settled absolute kept) :
    (spelled absolute kept.reverse).isAbsolute = absolute := by
  cases absolute with
  | true => simp [spelled, isAbsolute]
  | false =>
      by_contra rooted
      rcases isAbsolute_iff.mp (by simpa using rooted) with ⟨rest, some, parts⟩
      simp only [segments_spelled settled, Bool.false_eq_true, ↓reduceIte, List.nil_append] at parts
      split at parts
      · simp_all
      · have member : "" ∈ kept := by
          rw [← List.mem_reverse, parts]
          exact List.mem_cons_self
        exact settled.notMem_of_isIdle (by decide) member

theorem filterMap_spelled (settled : Settled absolute kept) :
    (spelled absolute kept.reverse).segments.filterMap component? =
      kept.reverse.filterMap component? := by
  have idle : component? "" = none := by decide
  rw [segments_spelled settled]
  by_cases none : kept = [] <;> cases absolute <;> simp [none, idle]

theorem components_spelled (settled : Settled absolute kept) :
    (spelled absolute kept.reverse).components = (held absolute kept).reverse := by
  have rooted := isAbsolute_spelled settled
  have names := filterMap_spelled settled
  unfold components
  rw [rooted, names]
  cases absolute with
  | true => simp [held]
  | false =>
      simp only [Bool.false_eq_true, ↓reduceIte, held, List.append_nil, ← List.filterMap_reverse]
      split
      · next rest dotted =>
          have first : "." ∈ (spelled false kept.reverse).segments := by simp [dotted]
          exact absurd (mem_of_mem_spelled settled (by decide) first)
            (settled.notMem_of_isIdle (by decide))
      · exact names

theorem lead_spelled (settled : Settled absolute kept) :
    (spelled absolute kept.reverse).lead = (if absolute then [""] else []) ++ kept.reverse := by
  rcases kept with _ | ⟨last, outer⟩
  · cases absolute <;> rfl
  have parts := segments_spelled settled
  simp only [reduceCtorEq, ↓reduceIte] at parts
  rcases (spelled absolute (last :: outer).reverse).segments_eq_lead with whole | slashed
  · rw [← whole, parts]
  · -- The last name is not empty.
    rw [parts, List.reverse_cons, ← List.append_assoc] at slashed
    have empty : last = "" := List.singleton_inj.mp (List.append_inj' slashed rfl).2
    subst empty
    exact absurd List.mem_cons_self (settled.notMem_of_isIdle (by decide))

theorem join_spelled (settled : Settled absolute kept) (more : Settled absolute (name :: kept)) :
    (spelled absolute kept.reverse).join ⟨name⟩ = spelled absolute (name :: kept).reverse := by
  rcases more.mem List.mem_cons_self with ⟨notIdle, whole⟩
  apply eq_of_segments
  rw [segments_join (isAbsolute_of_whole whole), lead_spelled settled, segments_of_whole whole,
    segments_spelled more]
  simp

theorem parent_spelled (outer : Settled absolute kept) (proper : IsProper name) :
    (spelled absolute (name :: kept).reverse).parent = some (spelled absolute kept.reverse) := by
  have settled := Settled.enter proper outer
  have named : ∀ part ∈ kept.reverse ++ [name], isIdle part = false := by
    intro part member
    have among : part ∈ name :: kept := by simpa [or_comm] using member
    exact (settled.mem among).1
  have parts := segments_spelled settled
  have rooted := isAbsolute_spelled settled
  have above := segments_spelled outer
  simp only [reduceCtorEq, ↓reduceIte, List.reverse_cons] at parts rooted ⊢
  cases absolute with
  | true =>
      rcases parent_of_segments parts named with ⟨up, isParent, upParts⟩
      rw [isParent, Option.some.injEq]
      apply eq_of_segments
      rw [upParts, above, rooted]
      by_cases none : kept = [] <;> simp [none]
  | false =>
      -- Without a root the outermost name is the first segment, and may be the only one.
      rcases front : kept.reverse with _ | ⟨first, names⟩
      · rw [front] at parts
        rw [parent_of_alone parts proper.notIdle]
        rfl
      · rw [front] at parts named above
        rcases parent_of_segments parts (fun part member => named part (by simp_all)) with
          ⟨up, isParent, upParts⟩
        rw [front] at rooted
        rw [isParent, Option.some.injEq]
        apply eq_of_segments
        have some : kept ≠ [] := by
          rintro rfl
          cases front
        rw [upParts, above, rooted]
        simp [some]

theorem text_spelled_eq_empty_iff (settled : Settled absolute kept) :
    (spelled absolute kept.reverse).text = "" ↔ absolute = false ∧ kept = [] := by
  rw [text_eq_empty_iff, segments_spelled settled]
  constructor
  · intro alone
    by_cases none : kept = []
    · cases absolute with
      | false => exact ⟨rfl, none⟩
      | true => simp [none] at alone
    · cases absolute with
      | false =>
          simp only [Bool.false_eq_true, ↓reduceIte, none, List.nil_append] at alone
          have member : "" ∈ kept := by
            rw [← List.mem_reverse, alone]
            exact List.mem_singleton_self ""
          exact absurd member (settled.notMem_of_isIdle (by decide))
      | true => simp [none] at alone
  · rintro ⟨rfl, rfl⟩
    rfl

end KeptNames

/-! ## Building in place -/

/-- The path that is being built, after one more component. -/
def takeIn (built : Path) : Component → Path
  | .root => built.join ⟨"/"⟩
  | .current => built
  | .normal name => built.join ⟨name⟩
  | .parent =>
    match built.components.getLast? with
    | some (.normal _) => built.parent.getD built
    | some .root => built
    | _ => built.join ⟨".."⟩

/-- The canonical spelling of a path, built from its components in one path. -/
def normalizeInPlace (path : Path) : Path :=
  let built := path.components.foldl takeIn ⟨""⟩
  if built.text = "" then ⟨"."⟩ else built

section InPlace

variable {absolute : Bool} {kept : List String} {name : String}

theorem takeIn_name (settled : Settled absolute kept) (proper : IsProper name) :
    takeIn (spelled absolute kept.reverse) (.normal name) =
      spelled absolute (name :: kept).reverse :=
  join_spelled settled (.enter proper settled)

theorem takeIn_parent (settled : Settled absolute kept) :
    takeIn (spelled absolute kept.reverse) .parent =
      spelled absolute (reduceStep absolute kept .parent).reverse := by
  have last : (spelled absolute kept.reverse).components.getLast? = (held absolute kept).head? := by
    rw [components_spelled settled, List.getLast?_reverse]
  unfold takeIn
  rw [last]
  cases settled with
  | start =>
      cases absolute with
      | true => rfl
      | false => rfl
  | climb relative above outer =>
      have more := Settled.climb relative (by simpa using above) (.climb relative above outer)
      simpa [held, component?_parent, reduceStep] using
        join_spelled (.climb relative above outer) more
  | enter proper outer =>
      simp only [held, List.filterMap_cons_some proper.normal, List.cons_append, List.head?_cons,
        parent_spelled outer proper, Option.getD_some, reduceStep, proper.ne_parent, ↓reduceIte]

end InPlace

/-! ## Canonical spellings -/

section Paths

variable (path : Path)

theorem normalize_cases :
    (path.isAbsolute = false ∧ path.kept = []) ∧ path.normalize = ⟨"."⟩ ∨
    ¬ (path.isAbsolute = false ∧ path.kept = []) ∧
      path.normalize = spelled path.isAbsolute path.kept.reverse := by
  rw [normalize_eq_ofNames]
  rcases start : path.isAbsolute with _ | _
  · by_cases none : path.kept = []
    · simp [none, ofNames]
    · simp [none, ofNames, spelled]
  · simp [ofNames, spelled]

theorem normalizeInPlace_eq : path.normalizeInPlace = path.normalize := by
  have settled := settled_kept path
  have loop := Settled.foldl_eq takeIn_name takeIn_parent
    (Settled.start : Settled path.isAbsolute []) fun segment => @notMem_of_mem_segments path segment
  have built : path.components.foldl takeIn ⟨""⟩ = spelled path.isAbsolute path.kept.reverse := by
    rw [kept, ← loop]
    rcases path.components_eq_append with ⟨start, parts⟩ | ⟨start, parts | parts⟩ <;>
      rw [parts, start] <;> rfl
  have empty := text_spelled_eq_empty_iff settled
  rcases path.normalize_cases with ⟨none, dot⟩ | ⟨some, text⟩
  · simp only [normalizeInPlace, built, empty.mpr none, ↓reduceIte, dot]
  · simp only [normalizeInPlace, built, mt empty.mp some, ↓reduceIte, text]

theorem isAbsolute_normalize : path.normalize.isAbsolute = path.isAbsolute := by
  rcases path.normalize_cases with ⟨⟨relative, _⟩, dot⟩ | ⟨_, text⟩
  · rw [dot, relative]
    rfl
  · rw [text, isAbsolute_spelled (settled_kept path)]

theorem filterMap_normalize :
    path.normalize.segments.filterMap component? = path.kept.reverse.filterMap component? := by
  rcases path.normalize_cases with ⟨⟨_, none⟩, dot⟩ | ⟨_, text⟩
  · rw [dot, none]
    rfl
  · rw [text, filterMap_spelled (settled_kept path)]

theorem kept_normalize : path.normalize.kept = path.kept := by
  rw [kept, keptAfter, isAbsolute_normalize, filterMap_normalize]
  exact (settled_kept path).keptAfter_reverse

theorem components_normalize :
    path.normalize.components =
      if reduction path.components = [] then [.current] else reduction path.components := by
  have settled := settled_kept path
  have none := settled.held_eq_nil_iff
  rw [reduction_components]
  rcases path.normalize_cases with ⟨empty, dot⟩ | ⟨some, text⟩
  · rw [dot, none.mpr empty]
    rfl
  · rw [text, components_spelled settled]
    simp [mt none.mp some]

end Paths

variable {path base inner : Path}

/-- Paths have the same canonical spelling if they start alike and the same names are kept. -/
theorem normalize_eq_of_kept {first second : Path} (start : first.isAbsolute = second.isAbsolute)
    (same : first.kept = second.kept) : first.normalize = second.normalize := by
  rw [normalize_eq_ofNames, normalize_eq_ofNames, start, same]

theorem kept_join (relative : inner.isAbsolute = false) :
    (base.join inner).kept = keptAfter base.isAbsolute base.kept inner.segments := by
  have idle : component? "" = none := by decide
  rw [kept, isAbsolute_join relative, segments_join relative, keptAfter_append, kept]
  rcases base.segments_eq_lead with whole | slashed
  · rw [whole]
  · rw [slashed, keptAfter_append base.isAbsolute [] base.lead, keptAfter_idle idle]
    rfl

theorem normalize_join (base inner : Path) :
    (base.join inner).normalize = (base.normalize.join inner).normalize := by
  rcases start : inner.isAbsolute with _ | _
  · refine normalize_eq_of_kept ?_ ?_
    · rw [isAbsolute_join start, isAbsolute_join start, isAbsolute_normalize]
    · rw [kept_join start, kept_join start, kept_normalize, isAbsolute_normalize]
  · simp [join, start]

theorem segments_normalize (some : ¬ (path.isAbsolute = false ∧ path.kept = [])) :
    path.normalize.segments = (if path.isAbsolute then [""] else []) ++
      if path.kept = [] then [""] else path.kept.reverse := by
  rcases path.normalize_cases with ⟨none, _⟩ | ⟨_, text⟩
  · exact absurd none some
  · rw [text, segments_spelled (settled_kept path)]

theorem absolute_normalize (absolute : path.isAbsolute = true) :
    "." ∉ path.normalize.segments ∧ ".." ∉ path.normalize.segments := by
  have settled := settled_kept path
  have parent : ".." ∉ path.kept := by
    rcases settled.eq_append with ⟨climbs, names, parts, proper, rooted⟩
    rw [← List.mem_reverse, parts, rooted absolute]
    intro member
    exact (proper ".." (by simpa using member)).ne_parent rfl
  rcases path.normalize_cases with ⟨⟨relative, _⟩, _⟩ | ⟨_, text⟩
  · cases absolute.symm.trans relative
  rw [text]
  constructor
  · exact mt (mem_of_mem_spelled settled (by decide)) (settled.notMem_of_isIdle (by decide))
  · exact mt (mem_of_mem_spelled settled (by decide)) parent

theorem relative_normalize (relative : path.isAbsolute = false) :
    path.normalize.segments = ["."] ∨ ∃ climbs names,
      path.normalize.segments = List.replicate climbs ".." ++ names ∧
        ∀ name ∈ names, IsProper name := by
  by_cases none : path.kept = []
  · left
    rcases path.normalize_cases with ⟨_, dot⟩ | ⟨some, _⟩
    · rw [dot]
      rfl
    · exact absurd ⟨relative, none⟩ some
  · right
    rcases (settled_kept path).eq_append with ⟨climbs, names, parts, proper, _⟩
    refine ⟨climbs, names, ?_, proper⟩
    rw [segments_normalize (by simp [none]), relative, ← parts]
    simp [none]

/-- What makes a path the canonical spelling of another: the loop that builds in place ends with
it, and its components are what the other's come to when they are simplified as long as possible,
or a single dot if they come to nothing. -/
structure IsCanonicalOf (path canonical : Path) : Prop where
  built : path.normalizeInPlace = canonical
  unique : ∀ reduced, IsReduction path.components reduced ↔ reduced = reduction path.components
  components : canonical.components =
    if reduction path.components = [] then [.current] else reduction path.components
  start : canonical.isAbsolute = path.isAbsolute
  absolute : canonical.isAbsolute = true → "." ∉ canonical.segments ∧ ".." ∉ canonical.segments
  relative : canonical.isAbsolute = false → canonical.segments = ["."] ∨ ∃ climbs names,
    canonical.segments = List.replicate climbs ".." ++ names ∧ ∀ name ∈ names, IsProper name
  again : canonical.normalize = canonical
  join : ∀ inner, (path.join inner).normalize = (canonical.join inner).normalize

theorem normalize_isCanonical (path : Path) : IsCanonicalOf path path.normalize where
  built := normalizeInPlace_eq path
  unique _ := isReduction_iff
  components := components_normalize path
  start := isAbsolute_normalize path
  absolute rooted := absolute_normalize (path.isAbsolute_normalize.symm.trans rooted)
  relative relative := relative_normalize (path.isAbsolute_normalize.symm.trans relative)
  again := normalize_eq_of_kept (isAbsolute_normalize path) (kept_normalize path)
  join := normalize_join path

example : (⟨"a/./b/../../../c"⟩ : Path).normalize = ⟨"../c"⟩ := by decide

/-! ## Lengths -/

theorem sublist_written {shorter longer : List String} (sublist : shorter.Sublist longer) :
    (written shorter).toList.Sublist (written longer).toList := by
  induction sublist with
  | slnil => exact .slnil
  | @cons shorter longer first sublist ih =>
      rcases longer with _ | ⟨second, others⟩
      · rw [List.sublist_nil.mp sublist]
        exact List.nil_sublist _
      · refine ih.trans ?_
        simp only [written, String.intercalate_cons_cons, String.toList_append]
        exact List.sublist_append_right _ _
  | @cons_cons shorter longer first sublist ih =>
      rcases shorter with _ | ⟨second, others⟩
      · rcases longer with _ | ⟨second, others⟩
        · exact List.Sublist.refl _
        · simp only [written, String.intercalate_singleton, String.intercalate_cons_cons,
            String.toList_append, List.append_assoc]
          exact List.sublist_append_left _ _
      · have some : longer ≠ [] := by
          rintro rfl
          cases sublist
        simp only [written, String.intercalate_cons_of_ne_nil some, String.intercalate_cons_cons,
          String.toList_append] at ih ⊢
        exact ih.append_left _

theorem sublist_reduceStep (absolute : Bool) (kept : List String) :
    (reduceStep absolute kept .parent).reverse.Sublist (kept.reverse ++ [".."]) := by
  rcases kept with _ | ⟨name, outer⟩
  · cases absolute <;> simp [reduceStep]
  · simp only [reduceStep]
    split
    · simp
    · simp only [List.reverse_cons, List.append_assoc]
      exact List.sublist_append_left _ _

theorem sublist_keptAfter {absolute : Bool} {kept segments : List String}
    (whole : ∀ segment ∈ segments, '/' ∉ segment.toList) :
    (keptAfter absolute kept segments).reverse.Sublist (kept.reverse ++ segments) := by
  induction segments generalizing kept with
  | nil => simp [keptAfter]
  | cons segment rest ih =>
      simp only [List.forall_mem_cons] at whole
      rcases component?_cases whole.1 with idle | rfl | proper
      · rw [keptAfter_idle idle]
        exact (ih whole.2).trans ((List.sublist_cons_self segment rest).append_left _)
      · rw [keptAfter_parent]
        refine (ih whole.2).trans ?_
        simpa using (sublist_reduceStep absolute kept).append_right rest
      · rw [keptAfter_proper proper]
        simpa using @ih (segment :: kept) whole.2

theorem text_normalize_ne_empty (path : Path) : path.normalize.text ≠ "" := by
  rcases path.normalize_cases with ⟨_, dot⟩ | ⟨some, text⟩
  · rw [dot]
    decide
  · rw [text]
    exact mt (text_spelled_eq_empty_iff (settled_kept path)).mp some

/-- A canonical spelling is written with characters of the path, in the same order. -/
theorem sublist_normalize (path : Path) :
    path.normalize = ⟨"."⟩ ∨ path.normalize.text.toList.Sublist path.text.toList := by
  rcases path.normalize_cases with ⟨_, dot⟩ | ⟨_, text⟩
  · exact Or.inl dot
  right
  have whole : ∀ segment ∈ path.segments, '/' ∉ segment.toList := fun _ => notMem_of_mem_segments
  rw [text]
  rcases start : path.isAbsolute with _ | _
  · have names := @sublist_keptAfter false [] path.segments whole
    rw [← written_segments path, kept, start]
    simpa [spelled] using sublist_written names
  · rcases isAbsolute_iff.mp start with ⟨rest, some, parts⟩
    rw [parts] at whole
    have names := @sublist_keptAfter true [] rest (by simpa using whole)
    have idle : component? "" = none := by decide
    rw [← written_segments path, kept, start, parts, keptAfter_idle idle]
    simpa [spelled, written, String.intercalate_cons_of_ne_nil some] using sublist_written names

end BridgeSetup.Path
