import BridgeSetup.Proofs.FileTree.Actions

/-!
# Directories and files that paths lead to

A path leads to a directory or to a file, and still does when the tree has grown. To name
something seen from a directory there must be that directory
(`resolvesTo_of_locate_join`).
-/

namespace BridgeSetup.FileTree

variable {tree : FileTree} {here : Location} {base : Path} {root : Location}

/-- A path, which may be empty, leads to a directory. -/
def ResolvesTo (tree : FileTree) (here : Location) (path : Path) (root : Location) : Prop :=
  tree.walk maxLinks (path.startFrom here) path.segments = .ok root ∧
    tree.isDirectoryAt root = true

theorem ResolvesTo.grow {before after : FileTree}
    (resolves : before.ResolvesTo here base root) (grows : Grows before after) :
    after.ResolvesTo here base root := by
  rcases leads_of_walk resolves.1 with ⟨used, bound, leads⟩
  exact ⟨(leads.grow grows).walk_eq_ok bound, grows.isDirectoryAt resolves.2⟩

theorem resolvesTo_of_lead {used : Nat} (bound : used ≤ maxLinks)
    (leads : tree.Leads used (base.startFrom here) base.lead root)
    (directory : tree.isDirectoryAt root = true) : tree.ResolvesTo here base root := by
  refine ⟨?_, directory⟩
  rcases base.segments_eq_lead with whole | slashed
  · rw [whole]
    exact leads.walk_eq_ok bound
  · have ends : tree.Leads 0 root [""] root := leads_blank directory (by simp)
    rw [slashed]
    exact (leads.append ends).walk_eq_ok bound

theorem ResolvesTo.lead (resolves : tree.ResolvesTo here base root) :
    ∃ used, tree.Leads used (base.startFrom here) base.lead root := by
  rcases leads_of_walk resolves.1 with ⟨used, _, leads⟩
  rcases base.segments_eq_lead with whole | slashed
  · rw [whole] at leads
    exact ⟨used, leads⟩
  · rw [slashed] at leads
    rcases leads.split rfl with ⟨earlier, later, middle, _, toMiddle, fromMiddle⟩
    have stays : tree.Leads 0 middle [""] middle :=
      leads_blank fromMiddle.isDirectoryAt_of_cons (by simp)
    rw [stays.unique fromMiddle] at toMiddle
    exact ⟨earlier, toMiddle⟩

/-- To name something seen from a directory, there must be that directory. -/
theorem resolvesTo_of_locate_join {inner : Path} {location : Location}
    (relative : inner.isAbsolute = false)
    (located : tree.locate here (base.join inner) = .ok location) :
    ∃ root, tree.ResolvesTo here base root := by
  rcases locate_eq_ok_iff.mp located with ⟨_, used, bound, leads⟩
  rw [Path.startFrom_join relative, Path.segments_join relative] at leads
  rcases leads.split rfl with ⟨earlier, later, middle, total, toMiddle, fromMiddle⟩
  refine ⟨middle, resolvesTo_of_lead (by omega) toMiddle ?_⟩
  rcases parts : inner.segments with _ | ⟨segment, rest⟩
  · exact absurd parts (segments_ne_nil inner)
  · rw [parts] at fromMiddle
    exact fromMiddle.isDirectoryAt_of_cons

theorem resolvesTo_of_targets_join {inner : Path} {location : Location}
    (relative : inner.isAbsolute = false)
    (targets : tree.Targets here (base.join inner) location) :
    ∃ root, tree.ResolvesTo here base root := by
  rcases targets with ⟨_, used, bound, places⟩
  rw [Path.startFrom_join relative, Path.segments_join relative] at places
  rcases places.split rfl (segments_ne_nil inner) with
    ⟨earlier, within, middle, toMiddle, directory⟩
  exact ⟨middle, resolvesTo_of_lead (within.trans bound) toMiddle directory⟩

/-! ## Files -/

theorem isFile_iff {path : Path} :
    tree.isFile here path = true ↔
      ∃ location contents mode, tree.locate here path = .ok location ∧
        tree.get? location = some (.file contents mode) := by
  unfold isFile find?
  rcases tree.locate here path with _ | location
  · simp
  · rcases found : tree.get? location with _ | ⟨_, _⟩ | _ | _ <;> simp [found]

theorem Grows.isFile {before after : FileTree} (grows : Grows before after) {path : Path}
    (file : before.isFile here path = true) : after.isFile here path = true := by
  rcases isFile_iff.mp file with ⟨location, contents, mode, located, found⟩
  rcases grows.file found with ⟨contents, mode, foundLater⟩
  exact isFile_iff.mpr ⟨location, contents, mode, grows.locate located, foundLater⟩

theorem Alike.isFile_eq {apart : Location → Prop} {first second : FileTree}
    (alike : Alike apart first second) (here : Location) (path : Path) :
    second.isFile here path = first.isFile here path := by
  rw [Bool.eq_iff_iff]
  exact ⟨alike.symm.grows.isFile, alike.grows.isFile⟩

/-- What leads to a directory does not name a file. -/
theorem ResolvesTo.not_isFile (resolves : tree.ResolvesTo here base root) :
    tree.isFile here base = false := by
  by_contra file
  simp only [Bool.not_eq_false] at file
  rcases isFile_iff.mp file with ⟨location, contents, mode, located, found⟩
  rcases locate_eq_ok_iff.mp located with ⟨_, used, bound, leads⟩
  cases (leads.walk_eq_ok bound).symm.trans resolves.1
  have directory := resolves.2
  simp [isDirectoryAt, found] at directory

/-- Two paths name the same regular file. -/
def SameFile (tree : FileTree) (here : Location) (first second : Path) : Prop :=
  ∃ location contents mode, tree.locate here first = .ok location ∧
    tree.locate here second = .ok location ∧ tree.get? location = some (.file contents mode)

theorem SameFile.locate_eq {first second : Path} (same : tree.SameFile here first second) :
    tree.locate here first = tree.locate here second := by
  rcases same with ⟨location, _, _, firstLocated, secondLocated, _⟩
  rw [firstLocated, secondLocated]

theorem SameFile.isFile {first second : Path} (same : tree.SameFile here first second) :
    tree.isFile here second = true := by
  rcases same with ⟨location, contents, mode, _, located, found⟩
  exact isFile_iff.mpr ⟨location, contents, mode, located, found⟩

theorem SameFile.grow {before after : FileTree} {first second : Path}
    (same : before.SameFile here first second) (grows : Grows before after) :
    after.SameFile here first second := by
  rcases same with ⟨location, contents, mode, firstLocated, secondLocated, found⟩
  rcases grows.file found with ⟨contents, mode, foundLater⟩
  exact ⟨location, contents, mode, grows.locate firstLocated, grows.locate secondLocated,
    foundLater⟩

end BridgeSetup.FileTree
