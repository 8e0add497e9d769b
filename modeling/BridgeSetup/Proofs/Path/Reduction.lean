import BridgeSetup.Path.Normalize
import BridgeSetup.Proofs.Path.Joining
import Mathlib.Logic.Relation

/-!
# Reduction of components

A list of components is simplified where it has a dot, a name with two dots after it, or two
dots at the root (`Simplifies`). However the places are chosen, what is left when there are no
more is the same: a stack of components computes it from left to right (`isReduction_iff`). No
diamond is needed for that. A simplification does not change what the stack computes, and the
stack's result is reached by simplifications, so that whatever is final is that result.

`Settled` describes what lexical normalization keeps of a path's names, which is this stack with
the components spelled out (`Settled.foldl_keep`).
-/

namespace BridgeSetup.Path

open Relation (ReflTransGen)

/-! ## Simplifying components -/

/-- A list of components is simplified at one place. -/
inductive Simplifies : List Component → List Component → Prop where
  | drop (front back) : Simplifies (front ++ .current :: back) (front ++ back)
  | cancel (front) (name : String) (back) :
      Simplifies (front ++ .normal name :: .parent :: back) (front ++ back)
  | clamp (front back) : Simplifies (front ++ .root :: .parent :: back) (front ++ .root :: back)

/-- What components come to when they are simplified as long as possible. -/
structure IsReduction (components reduced : List Component) : Prop where
  reached : ReflTransGen Simplifies components reduced
  final : ∀ further, ¬ Simplifies reduced further

/-- The components kept after one more, the last one first. Two dots take away the name before
them, disappear at the root, and are kept otherwise. -/
def keep (kept : List Component) : Component → List Component
  | .current => kept
  | .parent =>
    match kept with
    | .normal _ :: outer => outer
    | .root :: _ => kept
    | _ => .parent :: kept
  | component => component :: kept

/-- What a stack leaves of components. -/
def reduction (components : List Component) : List Component :=
  (components.foldl keep []).reverse

section Reductions

variable {before after components reduced : List Component}

theorem Simplifies.reduction_eq (simplifies : Simplifies before after) :
    reduction after = reduction before := by
  cases simplifies with
  | drop front back => simp [reduction, keep]
  | cancel front name back => simp [reduction, keep]
  | clamp front back => simp [reduction, keep]

theorem Simplifies.length_lt (simplifies : Simplifies before after) :
    after.length < before.length := by
  cases simplifies with
  | drop front back | cancel front name back | clamp front back =>
      simp only [List.length_append, List.length_cons]
      omega

theorem reduction_eq_of_simplifies (reached : ReflTransGen Simplifies before after) :
    reduction after = reduction before := by
  induction reached with
  | refl => rfl
  | tail _ simplifies ih => rw [simplifies.reduction_eq, ih]

theorem length_le_of_simplifies (reached : ReflTransGen Simplifies before after) :
    after.length ≤ before.length := by
  induction reached with
  | refl => exact Nat.le_refl _
  | tail _ simplifies ih => exact simplifies.length_lt.le.trans ih

/-- Putting a component on the stack is simplifying what the stack holds with the component
after it. -/
theorem simplifies_keep (kept : List Component) (component : Component) (rest : List Component) :
    ReflTransGen Simplifies (kept.reverse ++ component :: rest)
      ((keep kept component).reverse ++ rest) := by
  have stays : ReflTransGen Simplifies (kept.reverse ++ component :: rest)
      ((component :: kept).reverse ++ rest) := by
    rw [List.reverse_cons, List.append_assoc]
    exact .refl
  cases component with
  | root => exact stays
  | normal name => exact stays
  | current => exact .single (.drop kept.reverse rest)
  | parent =>
      rcases kept with _ | ⟨_ | _ | _ | name, outer⟩
      · exact stays
      · rw [List.reverse_cons, List.append_assoc]
        apply ReflTransGen.single
        simpa [keep] using Simplifies.clamp outer.reverse rest
      · exact stays
      · exact stays
      · rw [List.reverse_cons, List.append_assoc]
        exact .single (.cancel outer.reverse name rest)

theorem simplifies_foldl (components kept : List Component) :
    ReflTransGen Simplifies (kept.reverse ++ components) (components.foldl keep kept).reverse := by
  induction components generalizing kept with
  | nil =>
      rw [List.append_nil]
      exact .refl
  | cons component rest ih => exact (simplifies_keep kept component rest).trans (ih _)

theorem simplifies_reduction (components : List Component) :
    ReflTransGen Simplifies components (reduction components) :=
  simplifies_foldl components []

theorem length_reduction_le (components : List Component) :
    (reduction components).length ≤ components.length :=
  length_le_of_simplifies (simplifies_reduction components)

theorem isReduction_reduction (components : List Component) :
    IsReduction components (reduction components) := by
  refine ⟨simplifies_reduction components, ?_⟩
  intro further simplifies
  -- The stack takes what is left back to what it was, which is longer.
  have again : reduction (reduction components) = reduction components :=
    reduction_eq_of_simplifies (simplifies_reduction components)
  have short := length_reduction_le further
  rw [simplifies.reduction_eq, again] at short
  have shorter := simplifies.length_lt
  omega

/-- Simplifying as long as possible comes to what the stack leaves, wherever it starts. -/
theorem isReduction_iff : IsReduction components reduced ↔ reduced = reduction components := by
  constructor
  · rintro ⟨reached, final⟩
    rw [← reduction_eq_of_simplifies reached]
    rcases (simplifies_reduction reduced).cases_head with same | ⟨further, simplifies, _⟩
    · exact same
    · exact absurd simplifies (final further)
  · rintro rfl
    exact isReduction_reduction components

end Reductions

/-! ## Names that are kept -/

/-- A segment that stands for a name. -/
structure IsProper (segment : String) : Prop where
  normal : component? segment = some (.normal segment)
  whole : '/' ∉ segment.toList

/-- What lexical normalization keeps of a path's names, innermost first: proper names, and
outside of them two dots any number of times unless the path is absolute. -/
inductive Settled (absolute : Bool) : List String → Prop where
  | start : Settled absolute []
  | climb {kept} (relative : absolute = false) (above : ∀ name ∈ kept, name = "..")
      (outer : Settled absolute kept) : Settled absolute (".." :: kept)
  | enter {kept name} (proper : IsProper name) (outer : Settled absolute kept) :
      Settled absolute (name :: kept)

/-- The names that are kept after some more segments, innermost first. -/
def keptAfter (absolute : Bool) (kept segments : List String) : List String :=
  (segments.filterMap component?).foldl (reduceStep absolute) kept

/-- The names that are kept of a path, innermost first. -/
def kept (path : Path) : List String :=
  keptAfter path.isAbsolute [] path.segments

/-- Two dots of a path take back a name, which stands after the outer ones. -/
def TakesBack (path : Path) (outer : List String) (name : String) : Prop :=
  name ≠ ".." ∧ ∃ front back, path.segments = front ++ ".." :: back ∧
    keptAfter path.isAbsolute [] front = name :: outer

theorem component?_cases {segment : String} (whole : '/' ∉ segment.toList) :
    component? segment = none ∨ segment = ".." ∨ IsProper segment := by
  by_cases idle : isIdle segment = true
  · left
    simp [component?, idle]
  by_cases parent : segment = ".."
  · exact Or.inr (Or.inl parent)
  · right; right
    refine ⟨?_, whole⟩
    simp [component?, idle, parent]

theorem component?_eq_none_iff {segment : String} :
    component? segment = none ↔ isIdle segment = true := by
  unfold component?
  split
  · next idle => simp [idle]
  · split <;> simp_all

theorem component?_parent : component? ".." = some .parent := by
  decide

theorem IsProper.ne_parent {name : String} (proper : IsProper name) : name ≠ ".." := by
  rintro rfl
  cases proper.normal

theorem IsProper.notIdle {name : String} (proper : IsProper name) : isIdle name = false := by
  by_contra idle
  have normal := proper.normal
  simp [component?, idle] at normal

section KeptNames

variable {absolute : Bool} {kept segments : List String} {segment : String}

theorem keptAfter_append (absolute : Bool) (kept front back : List String) :
    keptAfter absolute kept (front ++ back) =
      keptAfter absolute (keptAfter absolute kept front) back := by
  simp [keptAfter]

theorem keptAfter_idle (idle : component? segment = none) :
    keptAfter absolute kept (segment :: segments) = keptAfter absolute kept segments := by
  simp [keptAfter, idle]

theorem keptAfter_parent :
    keptAfter absolute kept (".." :: segments) =
      keptAfter absolute (reduceStep absolute kept .parent) segments := by
  simp [keptAfter, component?_parent]

theorem keptAfter_proper (proper : IsProper segment) :
    keptAfter absolute kept (segment :: segments) =
      keptAfter absolute (segment :: kept) segments := by
  simp [keptAfter, proper.normal, reduceStep]

theorem Settled.mem {name : String} (settled : Settled absolute kept) (member : name ∈ kept) :
    isIdle name = false ∧ '/' ∉ name.toList := by
  induction settled with
  | start => cases member
  | climb _ _ _ ih =>
      rcases List.mem_cons.mp member with rfl | later
      · decide
      · exact ih later
  | enter proper _ ih =>
      rcases List.mem_cons.mp member with rfl | later
      · exact ⟨proper.notIdle, proper.whole⟩
      · exact ih later

theorem Settled.notMem_of_isIdle (settled : Settled absolute kept)
    (idle : isIdle segment = true) : segment ∉ kept := by
  intro member
  rw [(settled.mem member).1] at idle
  cases idle

theorem Settled.parent (settled : Settled absolute kept) :
    Settled absolute (reduceStep absolute kept .parent) := by
  cases settled with
  | start =>
      cases absolute with
      | true => exact .start
      | false => exact .climb rfl (by simp) .start
  | climb relative above outer =>
      exact .climb relative (by simpa using above) (.climb relative above outer)
  | enter proper outer =>
      simpa [reduceStep, proper.ne_parent] using outer

theorem Settled.after (settled : Settled absolute kept)
    (whole : ∀ segment ∈ segments, '/' ∉ segment.toList) :
    Settled absolute (keptAfter absolute kept segments) := by
  induction segments generalizing kept with
  | nil => exact settled
  | cons segment rest ih =>
      simp only [List.forall_mem_cons] at whole
      rcases component?_cases whole.1 with idle | rfl | proper
      · rw [keptAfter_idle idle]
        exact ih settled whole.2
      · rw [keptAfter_parent]
        exact ih settled.parent whole.2
      · rw [keptAfter_proper proper]
        exact ih (.enter proper settled) whole.2

/-- A loop over components goes along with the names that are kept, if it does so at a proper
name and at two dots. -/
theorem Settled.foldl_eq {β : Type} {take : β → Component → β} {shown : List String → β}
    (enters : ∀ {kept name}, Settled absolute kept → IsProper name →
      take (shown kept) (.normal name) = shown (name :: kept))
    (climbs : ∀ {kept}, Settled absolute kept →
      take (shown kept) .parent = shown (reduceStep absolute kept .parent))
    (settled : Settled absolute kept) (whole : ∀ segment ∈ segments, '/' ∉ segment.toList) :
    (segments.filterMap component?).foldl take (shown kept) =
      shown (keptAfter absolute kept segments) := by
  induction segments generalizing kept with
  | nil => rfl
  | cons segment rest ih =>
      simp only [List.forall_mem_cons] at whole
      rcases component?_cases whole.1 with idle | rfl | proper
      · rw [keptAfter_idle idle, List.filterMap_cons_none idle]
        exact ih settled whole.2
      · rw [keptAfter_parent, List.filterMap_cons_some component?_parent, List.foldl_cons,
          climbs settled]
        exact ih settled.parent whole.2
      · rw [keptAfter_proper proper, List.filterMap_cons_some proper.normal, List.foldl_cons,
          enters settled proper]
        exact ih (.enter proper settled) whole.2

/-- Nothing more is left out of names that have been kept. -/
theorem Settled.keptAfter_reverse (settled : Settled absolute kept) :
    keptAfter absolute [] kept.reverse = kept := by
  induction settled with
  | start => rfl
  | @climb kept relative above _ ih =>
      rw [List.reverse_cons, keptAfter_append, ih, keptAfter_parent]
      rcases kept with _ | ⟨name, outer⟩
      · simp [reduceStep, relative, keptAfter]
      · simp [reduceStep, above name (by simp), keptAfter]
  | enter proper _ ih =>
      rw [List.reverse_cons, keptAfter_append, ih, keptAfter_proper proper]
      rfl

theorem Settled.eq_append (settled : Settled absolute kept) :
    ∃ climbs names, kept.reverse = List.replicate climbs ".." ++ names ∧
      (∀ name ∈ names, IsProper name) ∧ (absolute = true → climbs = 0) := by
  induction settled with
  | start => exact ⟨0, [], rfl, by simp, fun _ => rfl⟩
  | @climb kept relative above _ _ =>
      have same : kept = List.replicate kept.length ".." := List.eq_replicate_of_mem above
      refine ⟨kept.length + 1, [], ?_, by simp, ?_⟩
      · rw [List.reverse_cons, same]
        simp [List.replicate_succ']
      · simp [relative]
  | @enter kept name proper _ ih =>
      rcases ih with ⟨climbs, names, parts, all, rooted⟩
      refine ⟨climbs, names ++ [name], by simp [parts], ?_, rooted⟩
      intro other member
      rcases List.mem_append.mp member with earlier | last
      · exact all other earlier
      · rw [List.mem_singleton.mp last]
        exact proper

/-! ## Kept names as a stack of components -/

/-- The stack of components that kept names make up. -/
def held (absolute : Bool) (kept : List String) : List Component :=
  kept.filterMap component? ++ if absolute then [.root] else []

theorem Settled.keep_parent (settled : Settled absolute kept) :
    keep (held absolute kept) .parent = held absolute (reduceStep absolute kept .parent) := by
  cases settled with
  | start => cases absolute <;> rfl
  | climb relative above outer => simp [held, component?_parent, reduceStep, keep, relative]
  | enter proper outer => simp [held, proper.normal, reduceStep, proper.ne_parent, keep]

theorem Settled.held_eq_nil_iff (settled : Settled absolute kept) :
    held absolute kept = [] ↔ absolute = false ∧ kept = [] := by
  cases settled with
  | start => cases absolute <;> simp [held]
  | climb relative above outer => simp [held, component?_parent]
  | enter proper outer => simp [held, proper.normal]

theorem keep_proper {name : String} (proper : IsProper name) :
    keep (held absolute kept) (.normal name) = held absolute (name :: kept) := by
  simp [held, keep, proper.normal]

theorem Settled.foldl_keep (settled : Settled absolute kept)
    (whole : ∀ segment ∈ segments, '/' ∉ segment.toList) :
    (segments.filterMap component?).foldl keep (held absolute kept) =
      held absolute (keptAfter absolute kept segments) :=
  foldl_eq (fun _ => keep_proper) keep_parent settled whole

end KeptNames

section Paths

variable (path : Path)

theorem settled_kept : Settled path.isAbsolute path.kept :=
  Settled.start.after fun _ => notMem_of_mem_segments

variable {path} in
theorem TakesBack.isProper {outer : List String} {name : String}
    (takes : path.TakesBack outer name) : IsProper name := by
  rcases takes with ⟨notParent, front, back, parts, kept⟩
  have settled : Settled path.isAbsolute (keptAfter path.isAbsolute [] front) := by
    refine Settled.start.after ?_
    intro segment member
    have among : segment ∈ path.segments := by simp [parts, member]
    exact notMem_of_mem_segments among
  rw [kept] at settled
  cases settled with
  | climb => exact absurd rfl notParent
  | enter proper _ => exact proper

/-- The components of a path are those of its segments, after what it starts with. -/
theorem components_eq_append :
    (path.isAbsolute = true ∧ path.components = .root :: path.segments.filterMap component?) ∨
    (path.isAbsolute = false ∧ (path.components = path.segments.filterMap component? ∨
      path.components = .current :: path.segments.filterMap component?)) := by
  unfold components
  split
  · next absolute => exact Or.inl ⟨absolute, rfl⟩
  · next relative =>
      right
      refine ⟨by simpa using relative, ?_⟩
      split
      · next rest dotted =>
          have idle : component? "." = none := by decide
          right
          rw [dotted, List.filterMap_cons_none idle]
      · exact Or.inl rfl

theorem reduce_eq_kept : reduce path.isAbsolute path.components = path.kept.reverse := by
  rcases path.components_eq_append with ⟨_, parts⟩ | ⟨_, parts | parts⟩ <;>
    simp [reduce, parts, kept, keptAfter, reduceStep]

theorem normalize_eq_ofNames : path.normalize = ofNames path.isAbsolute path.kept.reverse := by
  rw [normalize, reduce_eq_kept]

theorem reduction_components :
    reduction path.components = (held path.isAbsolute path.kept).reverse := by
  have stack := (Settled.start : Settled path.isAbsolute []).foldl_keep
    (fun segment => @notMem_of_mem_segments path segment)
  rw [reduction, kept, ← stack]
  rcases path.components_eq_append with ⟨start, parts⟩ | ⟨start, parts | parts⟩ <;>
    simp [parts, held, start, keep]

end Paths

end BridgeSetup.Path
