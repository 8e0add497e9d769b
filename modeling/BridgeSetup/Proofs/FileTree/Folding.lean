import BridgeSetup.Proofs.FileTree.Actions
import BridgeSetup.Proofs.FileTree.Growth
import BridgeSetup.Proofs.Path.Normalization
import Mathlib.Data.String.Basic

/-!
# Lexical normalization in a file tree

At two dots lexical normalization takes back the name before them, where the operating system
goes to the parent of the place to which that name has led. These agree when the name has led to
an entry of the directory in which it was looked up, and only a symbolic link can lead elsewhere
(`foldsBack_of_solid`).

The walk along the names that are kept arrives wherever the walk along the path does: one segment
keeps this so (`FoldsBack.step`), and therefore all of them do (`FoldsBack.leads_kept`). It follows
no more links than the other walk, and the canonical spelling is no longer than the path, so that
no limit of the operating system is in its way.
-/

namespace BridgeSetup.FileTree

open BridgeSetup.Path (component?_cases keptAfter keptAfter_append keptAfter_idle keptAfter_parent
  keptAfter_proper notMem_of_mem_segments reduceStep)

variable {tree : FileTree} {here location middle place : Location} {path : Path}

/-- A path's two dots take back only names that lead to an entry of the directory in which they
are looked up, over symbolic links or not. -/
def FoldsBack (tree : FileTree) (here : Location) (path : Path) : Prop :=
  ∀ {outer name}, path.TakesBack outer name → ∀ {earlier later directory place},
    tree.Leads earlier (path.startFrom here) outer.reverse directory →
    tree.Leads later directory [name] place → place.tail = directory

/-! ## Along the names that are kept -/

section Walks

variable {front back : List String} {segment : String} {before after : Nat}

/-- One more segment leads to where the names that are kept with it do. -/
theorem FoldsBack.step (folds : tree.FoldsBack here path)
    (parts : path.segments = front ++ segment :: back)
    (stands : tree.Leads before (path.startFrom here)
      (keptAfter path.isAbsolute [] front).reverse middle)
    (steps : tree.Leads after middle [segment] place) :
    ∃ used ≤ before + after, tree.Leads used (path.startFrom here)
      (keptAfter path.isAbsolute [] (front ++ [segment])).reverse place := by
  have directory := steps.isDirectoryAt_of_cons
  have whole : '/' ∉ segment.toList := by
    have member : segment ∈ path.segments := by simp [parts]
    exact notMem_of_mem_segments member
  rw [keptAfter_append]
  rcases component?_cases whole with idle | rfl | proper
  · have stays : tree.Leads 0 middle [segment] middle :=
      .stay directory (Path.component?_eq_none_iff.mp idle) (.arrive middle)
    rw [keptAfter_idle idle, ← stays.unique steps]
    exact ⟨before, Nat.le_add_right before after, stands⟩
  · have climbs : tree.Leads 0 middle [".."] middle.tail := .climb directory (.arrive middle.tail)
    rw [keptAfter_parent, ← climbs.unique steps]
    rcases kept : keptAfter path.isAbsolute [] front with _ | ⟨name, outer⟩
    · -- Nothing is kept, so the walk still stands where it started.
      rw [kept] at stands
      cases stands
      rcases start : path.isAbsolute with _ | _
      · exact ⟨0, Nat.zero_le _, climbs⟩
      · refine ⟨0, Nat.zero_le _, ?_⟩
        simp only [Path.startFrom, start]
        exact .arrive []
    by_cases parent : name = ".."
    · subst parent
      rw [kept] at stands
      refine ⟨before, Nat.le_add_right before after, ?_⟩
      simpa [reduceStep, keptAfter] using stands.append climbs
    · -- The name is taken back, and two dots lead to where it was entered from.
      rw [kept, List.reverse_cons] at stands
      rcases stands.split rfl with ⟨earlier, later, outside, total, toOutside, enters⟩
      rw [folds ⟨parent, front, back, parts, kept⟩ toOutside enters]
      refine ⟨earlier, by omega, ?_⟩
      simpa [reduceStep, keptAfter, parent] using toOutside
  · rw [keptAfter_proper proper]
    refine ⟨before + after, Nat.le_refl _, ?_⟩
    simpa [keptAfter] using stands.append steps

/-- The names that are kept lead to where the path does, over no more symbolic links. -/
theorem FoldsBack.leads_kept (folds : tree.FoldsBack here path)
    (parts : path.segments = front ++ back)
    (stands : tree.Leads before (path.startFrom here)
      (keptAfter path.isAbsolute [] front).reverse middle)
    (leads : tree.Leads after middle back location) :
    ∃ used ≤ before + after,
      tree.Leads used (path.startFrom here) path.kept.reverse location := by
  induction back generalizing front before after middle with
  | nil =>
      rw [List.append_nil] at parts
      cases leads
      rw [Path.kept, parts]
      exact ⟨before, Nat.le_refl _, stands⟩
  | cons segment rest ih =>
      have first : segment :: rest = [segment] ++ rest := rfl
      rcases leads.split first with ⟨earlier, later, next, total, steps, onward⟩
      rcases folds.step parts stands steps with ⟨used, bound, standsNext⟩
      rcases ih (by simpa using parts) standsNext onward with ⟨fewer, boundFewer, reached⟩
      exact ⟨fewer, by omega, reached⟩

end Walks

/-- The canonical spelling of a path leads to where the names that are kept of it do. -/
theorem leads_normalize {used : Nat} (directory : tree.isDirectoryAt (path.startFrom here) = true)
    (leads : tree.Leads used (path.startFrom here) path.kept.reverse location) :
    tree.Leads used (path.normalize.startFrom here) path.normalize.segments location := by
  have same : path.normalize.startFrom here = path.startFrom here := by
    simp [Path.startFrom, Path.isAbsolute_normalize]
  rw [same]
  rcases path.normalize_cases with ⟨⟨_, none⟩, dot⟩ | ⟨some, _⟩
  · rw [none] at leads
    cases leads
    rw [dot]
    exact .stay directory (by decide) (.arrive _)
  · rw [Path.segments_normalize some]
    have inner : tree.Leads used (path.startFrom here)
        (if path.kept = [] then [""] else path.kept.reverse) location := by
      split
      · next none =>
          rw [none] at leads
          cases leads
          exact .stay directory (by decide) (.arrive _)
      · exact leads
    split
    · exact .stay directory (by decide) inner
    · exact inner

/-! ## Paths that are accepted -/

theorem checkPath_eq_ok_iff : checkPath path = .ok () ↔
    path.hasNul = false ∧ path.text ≠ "" ∧ path.text.utf8ByteSize ≤ maxPathLength := by
  unfold checkPath
  split
  · simp_all
  split
  · simp_all
  split
  · simp_all
  · simp_all

theorem checkPath_normalize (accepted : checkPath path = .ok ()) :
    checkPath path.normalize = .ok () := by
  rcases checkPath_eq_ok_iff.mp accepted with ⟨noNul, _, short⟩
  rcases path.sublist_normalize with dot | sublist
  · rw [dot]
    decide
  refine checkPath_eq_ok_iff.mpr ⟨?_, path.text_normalize_ne_empty, ?_⟩
  · simp only [Path.hasNul, List.contains_eq_mem, decide_eq_false_iff_not] at noNul ⊢
    exact fun member => noNul (sublist.subset member)
  · have shorter := String.utf8Len_le_of_sublist sublist
    rw [← String.utf8ByteSize_ofList, ← String.utf8ByteSize_ofList, String.ofList_toList,
      String.ofList_toList] at shorter
    exact shorter.trans short

theorem locate_normalize_of_foldsBack (folds : tree.FoldsBack here path)
    (located : tree.locate here path = .ok location) :
    tree.locate here path.normalize = .ok location := by
  rcases locate_eq_ok_iff.mp located with ⟨accepted, total, bound, leads⟩
  have directory : tree.isDirectoryAt (path.startFrom here) = true := by
    rcases parts : path.segments with _ | ⟨first, rest⟩
    · exact absurd parts (segments_ne_nil path)
    · rw [parts] at leads
      exact leads.isDirectoryAt_of_cons
  rcases folds.leads_kept (List.nil_append _).symm (.arrive _) leads with ⟨used, fewer, reached⟩
  refine locate_eq_ok_iff.mpr ⟨checkPath_normalize accepted, used, by omega, ?_⟩
  exact leads_normalize directory reached

/-- A path folds back if no name that its two dots take back is a symbolic link. -/
theorem foldsBack_of_solid
    (solid : ∀ {outer name}, path.TakesBack outer name → ∀ {earlier directory},
      tree.Leads earlier (path.startFrom here) outer.reverse directory →
      ∀ target, tree.get? (name :: directory) ≠ some (.link target)) :
    tree.FoldsBack here path := by
  intro outer name takes earlier later directory place toDirectory enters
  have proper := takes.isProper
  cases enters with
  | stay _ idle _ => simp [proper.notIdle] at idle
  | climb => exact absurd rfl proper.ne_parent
  | enter _ _ _ _ onward =>
      cases onward
      rfl
  | follow _ _ found _ => exact absurd found (solid takes toDirectory _)

/-- In a tree without symbolic links the canonical spelling of a path names what the path names,
whatever directory it is seen from. -/
theorem locate_normalize (plain : tree.PlainBelow [])
    (located : tree.locate here path = .ok location) :
    tree.locate here path.normalize = .ok location := by
  refine locate_normalize_of_foldsBack (foldsBack_of_solid ?_) located
  intro outer name _ _ directory _ target
  simpa using plain name directory target

/-- A file `a/f` beside a directory `a/b`, and a directory `w`. -/
def plainFiles : FileTree :=
  ⟨[(["w"], .directory), (["a"], .directory), (["b", "a"], .directory),
    (["f", "a"], .file [] 0o644)]⟩

def windingPath : Path :=
  ⟨"..//a/./b/../../../a/b/../f"⟩

theorem locate_normalize_sample :
    plainFiles.PlainBelow [] ∧
    plainFiles.locate ["w"] windingPath = .ok ["f", "a"] ∧
    windingPath.normalize = ⟨"../../a/f"⟩ ∧
    plainFiles.locate ["w"] windingPath.normalize = .ok ["f", "a"] := by
  have plain : plainFiles.PlainBelow [] := by
    intro name names target found
    have listed := mem_nodes_of_get? (by simp) found
    simp [plainFiles] at listed
  have located : plainFiles.locate ["w"] windingPath = .ok ["f", "a"] := by
    decide
  exact ⟨plain, located, by decide, locate_normalize plain located⟩

end BridgeSetup.FileTree
