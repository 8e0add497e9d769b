import BridgeSetup.Path.Normalize
import BridgeSetup.Proofs.FileTree.Directories
import BridgeSetup.Proofs.FileTree.Resolving
import BridgeSetup.Proofs.Path.Reduction

/-!
# Where safe names lead

A name that never climbs above its start is followed segment by segment from a directory without
symbolic links below it. The places on its way are then those that lexical reduction keeps of its
first segments, whatever there is in the tree (`PlainBelow.reaches`,
`PlainBelow.front_of_reaches`), and the last of them is the place of the name itself. Several
names can have the same place.
-/

namespace BridgeSetup

namespace Path

/-- The names that are kept after some more segments, innermost first. -/
def namesAfter (kept segments : List String) : List String :=
  (segments.filterMap component?).foldl (reduceStep false) kept

theorem namesAfter_cons (kept : List String) (segment : String) (rest : List String) :
    namesAfter kept (segment :: rest) = namesAfter (namesAfter kept [segment]) rest :=
  keptAfter_append false kept [segment] rest

theorem reduce_components {path : Path} (relative : path.isAbsolute = false) :
    reduce false path.components = (namesAfter [] path.segments).reverse := by
  have names := path.reduce_eq_kept
  rw [kept, relative] at names
  exact names

/-- Seen from the kept names, some segments never climb above where these start. -/
structure Shallow (kept segments : List String) : Prop where
  proper : ∀ name ∈ kept, name ≠ ".."
  inside : (Zip.depthAfter kept.length (segments.filterMap component?)).isSome

/-- What the first of such segments does to the kept names. -/
theorem Shallow.cases {kept rest : List String} {segment : String}
    (shallow : Shallow kept (segment :: rest)) :
    (isIdle segment = true ∧ namesAfter kept [segment] = kept ∧ Shallow kept rest) ∨
    (∃ name outer, segment = ".." ∧ kept = name :: outer ∧ namesAfter kept [segment] = outer ∧
      Shallow outer rest) ∨
    (isIdle segment = false ∧ segment ≠ ".." ∧ namesAfter kept [segment] = segment :: kept ∧
      Shallow (segment :: kept) rest) := by
  rcases shallow with ⟨proper, inside⟩
  by_cases idle : isIdle segment = true
  · left
    refine ⟨idle, ?_, proper, ?_⟩
    · simp [namesAfter, component?, idle]
    · simpa [component?, idle] using inside
  right
  by_cases parent : segment = ".."
  · subst parent
    left
    rcases kept with _ | ⟨name, outer⟩
    · simp [component?, idle, Zip.depthAfter] at inside
    · have named : name ≠ ".." := proper name (by simp)
      refine ⟨name, outer, rfl, rfl, ?_, fun other member => proper other (by simp [member]), ?_⟩
      · simp [namesAfter, component?, idle, reduceStep, named]
      · simpa [component?, idle, Zip.depthAfter] using inside
  · right
    refine ⟨by simpa using idle, parent, ?_, ?_, ?_⟩
    · simp [namesAfter, component?, idle, parent, reduceStep]
    · intro name member
      rcases List.mem_cons.mp member with rfl | member
      · exact parent
      · exact proper name member
    · simpa [component?, idle, parent, Zip.depthAfter] using inside

end Path

namespace FileTree

open BridgeSetup.Path (namesAfter Shallow)

variable {tree : FileTree} {root : Location}

/-! ## Places on the way of a safe name -/

theorem PlainBelow.grow {before after : FileTree} (plain : before.PlainBelow root)
    (grows : Grows before after) : after.PlainBelow root := by
  intro name names target found
  exact plain name names target (grows.link_iff.mp found)

theorem PlainBelow.advance (plain : tree.PlainBelow root) {kept rest : List String}
    {segment : String} (shallow : Shallow kept (segment :: rest)) :
    tree.advance (kept ++ root) segment rest = (namesAfter kept [segment] ++ root, rest) ∧
      Shallow (namesAfter kept [segment]) rest := by
  rcases shallow.cases with ⟨idle, stays, onward⟩ | ⟨name, outer, rfl, rfl, climbs, onward⟩ |
    ⟨notIdle, notParent, enters, onward⟩
  · rw [stays, advance_idle idle]
    exact ⟨rfl, onward⟩
  · rw [climbs, advance_parent]
    exact ⟨rfl, onward⟩
  · rw [enters, advance_name notIdle notParent (plain segment kept)]
    exact ⟨rfl, onward⟩

/-- What is kept of the first segments is on the way. -/
theorem PlainBelow.reaches (plain : tree.PlainBelow root) (back : List String) :
    ∀ {front kept : List String}, Shallow kept (front ++ back) →
      tree.Reaches (kept ++ root) (front ++ back) (namesAfter kept front ++ root) back := by
  intro front
  induction front with
  | nil =>
      intro kept _
      exact .refl _ back
  | cons segment front ih =>
      intro kept shallow
      rw [List.cons_append] at shallow ⊢
      rcases plain.advance shallow with ⟨step, onward⟩
      refine .step ?_
      rw [step, Path.namesAfter_cons kept segment front]
      exact ih onward

/-- Whatever is on the way is kept of the first segments. -/
theorem PlainBelow.front_of_reaches (plain : tree.PlainBelow root) {here there : Location}
    {ahead left : List String} (reaches : tree.Reaches here ahead there left) :
    ∀ {kept : List String}, here = kept ++ root → Shallow kept ahead →
      ∃ front, front ++ left = ahead ∧ there = namesAfter kept front ++ root := by
  induction reaches with
  | refl here ahead =>
      intro kept inside _
      exact ⟨[], rfl, inside⟩
  | @step here segment rest there left _ ih =>
      rintro kept rfl shallow
      rcases plain.advance shallow with ⟨step, onward⟩
      rw [step] at ih
      rcases ih rfl onward with ⟨front, rfl, stands⟩
      exact ⟨segment :: front, rfl, by rw [stands, ← Path.namesAfter_cons]⟩

/-! ## Names seen from a directory -/

variable {here location : Location} {base : Path} {name : String}

/-- The place that lexical reduction finds for a name below a directory. -/
def landing (root : Location) (name : String) : Location :=
  (Path.reduce false (⟨name⟩ : Path).components).reverse ++ root

theorem landing_eq (safe : Zip.isSafeName name = true) :
    landing root name = namesAfter [] (⟨name⟩ : Path).segments ++ root := by
  rw [landing, Path.reduce_components (Path.relative_of_isSafeName safe).1, List.reverse_reverse]

theorem shallow_of_isSafeName (safe : Zip.isSafeName name = true) :
    Shallow [] (⟨name⟩ : Path).segments :=
  ⟨by simp, (Path.relative_of_isSafeName safe).2⟩

section Safe

variable (resolves : tree.ResolvesTo here base root) (plain : tree.PlainBelow root)
  (safe : Zip.isSafeName name = true)

include resolves plain safe

theorem reaches_join {front back : List String}
    (parts : front ++ back = (⟨name⟩ : Path).segments) :
    tree.Reaches ((base.join ⟨name⟩).startFrom here) (base.join ⟨name⟩).segments
      (namesAfter [] front ++ root) back := by
  have relative := (Path.relative_of_isSafeName safe).1
  have shallow := shallow_of_isSafeName safe
  rw [← parts] at shallow
  rcases resolves.lead with ⟨used, toRoot⟩
  rw [Path.startFrom_join relative, Path.segments_join relative, ← parts]
  exact (toRoot.reaches.append (front ++ back)).trans (plain.reaches back shallow)

/-- On the way of a safe name, seen from a directory without symbolic links below it, there are
only directories that exist and what is kept of the name's first segments. -/
theorem front_of_onWay (onWay : tree.OnWay here (base.join ⟨name⟩) location) :
    tree.isDirectoryAt location = true ∨
      ∃ front, front <+: (⟨name⟩ : Path).segments ∧ location = namesAfter [] front ++ root := by
  have relative := (Path.relative_of_isSafeName safe).1
  rcases resolves.lead with ⟨used, toRoot⟩
  rcases onWay with ⟨left, reaches⟩
  rw [Path.startFrom_join relative, Path.segments_join relative] at reaches
  rcases reaches.split rfl with ⟨kept, _, along⟩ | ⟨middle, toMiddle, fromMiddle⟩
  · rcases Leads.of_reaches along toRoot with ⟨later, onward⟩
    exact Or.inl (onward.isDirectoryAt resolves.2)
  · cases toMiddle.unique rfl toRoot.reaches
    rcases plain.front_of_reaches fromMiddle rfl (shallow_of_isSafeName safe) with
      ⟨front, whole, stands⟩
    exact Or.inr ⟨front, ⟨left, whole⟩, stands⟩

theorem Targets.eq_landing (targets : tree.Targets here (base.join ⟨name⟩) location) :
    location = landing root name := by
  rcases targets with ⟨_, used, _, places⟩
  rw [landing_eq safe]
  exact places.reaches.unique rfl
    (reaches_join resolves plain safe (List.append_nil (⟨name⟩ : Path).segments))

theorem isDirectoryAt_of_pathExists {front back : List String}
    (there : tree.pathExists here (base.join ⟨name⟩) = true)
    (parts : front ++ back = (⟨name⟩ : Path).segments) (further : back ≠ []) :
    tree.isDirectoryAt (namesAfter [] front ++ root) = true := by
  rcases pathExists_iff.mp there with ⟨last, located, _⟩
  rcases locate_eq_ok_iff.mp located with ⟨_, used, _, leads⟩
  rcases Leads.of_reaches (reaches_join resolves plain safe parts) leads with ⟨later, onward⟩
  -- A walk that still has segments ahead of it stands in a directory.
  rcases back with _ | ⟨segment, rest⟩
  · exact absurd rfl further
  · exact onward.isDirectoryAt_of_cons

theorem isDirectoryAt_of_isDirectory {front : List String}
    (directory : tree.isDirectory here (base.join ⟨name⟩) = true)
    (begins : front <+: (⟨name⟩ : Path).segments) :
    tree.isDirectoryAt (namesAfter [] front ++ root) = true := by
  rcases isDirectory_iff.mp directory with ⟨last, located, isDirectory⟩
  rcases locate_eq_ok_iff.mp located with ⟨_, used, _, leads⟩
  rcases begins with ⟨back, parts⟩
  rcases Leads.of_reaches (reaches_join resolves plain safe parts) leads with ⟨later, onward⟩
  exact onward.isDirectoryAt isDirectory

end Safe

end FileTree

end BridgeSetup
