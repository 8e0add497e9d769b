import BridgeSetup.FileTree.Change

/-!
# Growing file trees

Setting up a bridge never takes anything away: it adds files and directories, and writes
files again that are there. `Grows` says this of two trees. A node of the earlier tree is
still there with its *shape*, which is all of a node but the contents and the permission
bits of a file, and a node that is new is no symbolic link.

Where a path leads depends on shapes alone, so a path that leads somewhere leads to the
same place in a tree that has grown.
-/

namespace BridgeSetup

/-- What a node is, whatever a file holds: its kind, and the target of a symbolic link. -/
def Node.shape : Node → Node
  | .file _ _ => .file [] 0
  | .directory => .directory
  | .link target => .link target

namespace FileTree

/-- The shape of the node at a location. -/
def shapeAt (tree : FileTree) (location : Location) : Option Node :=
  (tree.get? location).map Node.shape

theorem shapeAt_eq_directory {tree : FileTree} {location : Location} :
    tree.shapeAt location = some .directory ↔ tree.get? location = some .directory := by
  unfold shapeAt
  rcases tree.get? location with _ | ⟨_, _⟩ | _ | _ <;> simp [Node.shape]

theorem shapeAt_eq_link {tree : FileTree} {location : Location} {target : Path} :
    tree.shapeAt location = some (.link target) ↔
      tree.get? location = some (.link target) := by
  unfold shapeAt
  rcases tree.get? location with _ | ⟨_, _⟩ | _ | _ <;> simp [Node.shape]

theorem shapeAt_eq_file {tree : FileTree} {location : Location} :
    tree.shapeAt location = some (.file [] 0) ↔
      ∃ contents mode, tree.get? location = some (.file contents mode) := by
  unfold shapeAt
  rcases tree.get? location with _ | ⟨_, _⟩ | _ | _ <;> simp [Node.shape]

theorem shapeAt_eq_none {tree : FileTree} {location : Location} :
    tree.shapeAt location = none ↔ tree.get? location = none := by
  simp [shapeAt]

/-- Every node of the earlier tree keeps its shape, and no new node is a symbolic link. -/
def Grows (before after : FileTree) : Prop :=
  ∀ location, after.shapeAt location = before.shapeAt location ∨
    before.get? location = none ∧ ∀ target, after.get? location ≠ some (.link target)

namespace Grows

variable {before middle after : FileTree} {location : Location}

theorem refl (tree : FileTree) : Grows tree tree :=
  fun _ => Or.inl rfl

theorem trans (earlier : Grows before middle) (later : Grows middle after) :
    Grows before after := by
  intro location
  rcases earlier location with kept | ⟨absent, notLink⟩
  · rcases later location with keptAgain | ⟨absent, notLink⟩
    · exact Or.inl (keptAgain.trans kept)
    · right
      rw [← shapeAt_eq_none, kept, shapeAt_eq_none] at absent
      exact ⟨absent, notLink⟩
  · right
    refine ⟨absent, ?_⟩
    rcases later location with kept | ⟨_, notLinkLater⟩
    · intro target isLink
      rw [← shapeAt_eq_link, kept, shapeAt_eq_link] at isLink
      exact notLink target isLink
    · exact notLinkLater

theorem of_shapeAt_eq (same : ∀ location, after.shapeAt location = before.shapeAt location) :
    Grows before after :=
  fun location => Or.inl (same location)

theorem shapeAt_eq (grows : Grows before after) (present : before.get? location ≠ none) :
    after.shapeAt location = before.shapeAt location := by
  rcases grows location with kept | ⟨absent, _⟩
  · exact kept
  · exact absurd absent present

theorem isDirectoryAt (grows : Grows before after)
    (directory : before.isDirectoryAt location = true) :
    after.isDirectoryAt location = true := by
  simp only [FileTree.isDirectoryAt, decide_eq_true_eq] at directory ⊢
  rw [← shapeAt_eq_directory, grows.shapeAt_eq (by simp [directory]), shapeAt_eq_directory]
  exact directory

theorem isDirectoryAt_of_present (grows : Grows before after)
    (present : before.get? location ≠ none) (directory : after.isDirectoryAt location = true) :
    before.isDirectoryAt location = true := by
  simp only [FileTree.isDirectoryAt, decide_eq_true_eq] at directory ⊢
  rwa [← shapeAt_eq_directory, ← grows.shapeAt_eq present, shapeAt_eq_directory]

/-- Growth neither makes symbolic links nor changes them. -/
theorem link_iff (grows : Grows before after) {target : Path} :
    after.get? location = some (.link target) ↔
      before.get? location = some (.link target) := by
  rcases grows location with kept | ⟨absent, notLink⟩
  · rw [← shapeAt_eq_link, kept, shapeAt_eq_link]
  · simp [absent, notLink target]

theorem file (grows : Grows before after) {contents : Bytes} {mode : Nat}
    (found : before.get? location = some (.file contents mode)) :
    ∃ contents mode, after.get? location = some (.file contents mode) := by
  rw [← shapeAt_eq_file, grows.shapeAt_eq (by simp [found]), shapeAt_eq_file]
  exact ⟨contents, mode, found⟩

theorem present (grows : Grows before after) (found : before.get? location ≠ none) :
    after.get? location ≠ none := by
  rw [ne_eq, ← shapeAt_eq_none, grows.shapeAt_eq found, shapeAt_eq_none]
  exact found

end Grows

/-! ## Single changes -/

variable {tree : FileTree} {location : Location}

theorem mem_nodes_of_get? {node : Node} (proper : location ≠ [])
    (found : tree.get? location = some node) : (location, node) ∈ tree.nodes := by
  rcases location with _ | ⟨name, outer⟩
  · exact absurd rfl proper
  · rcases List.lookup_eq_some_iff.mp found with ⟨front, back, parts, _⟩
    simp [parts]

theorem get?_set (proper : location ≠ []) (node : Node) (other : Location) :
    (tree.set location node).get? other =
      if other = location then some node else tree.get? other := by
  split
  · next same =>
      subst same
      exact get?_set_self tree proper node
  · next different => exact get?_set_of_ne tree different node

theorem get?_set_root (node : Node) (other : Location) :
    (tree.set [] node).get? other = tree.get? other := by
  by_cases root : other = []
  · subst root
    rfl
  · exact get?_set_of_ne tree root node

/-- Putting a node where there is one of its shape, or where nothing is, lets a tree grow. -/
theorem grows_set {node : Node}
    (fits : tree.shapeAt location = some node.shape ∨
      tree.get? location = none ∧ ∀ target, node ≠ .link target) :
    Grows tree (tree.set location node) := by
  intro other
  by_cases proper : location = []
  · subst proper
    left
    simp [shapeAt, get?_set_root]
  · by_cases same : other = location
    · subst same
      rcases fits with kept | ⟨absent, notLink⟩
      · left
        rw [kept]
        simp [shapeAt, get?_set proper]
      · right
        refine ⟨absent, ?_⟩
        simpa [get?_set proper] using notLink
    · left
      simp [shapeAt, get?_set proper, same]

theorem shapeAt_setContents (contents : Bytes) (other : Location) :
    (tree.setContents location contents).shapeAt other = tree.shapeAt other := by
  unfold setContents
  split
  · next old mode found =>
      have proper : location ≠ [] := by
        rintro rfl
        simp at found
      by_cases same : other = location
      · subst same
        simp [shapeAt, get?_set proper, found, Node.shape]
      · simp [shapeAt, get?_set proper, same]
  · rfl

theorem shapeAt_setModeAt (mode : Nat) (other : Location) :
    (tree.setModeAt location mode).shapeAt other = tree.shapeAt other := by
  unfold setModeAt
  split
  · next contents old found =>
      have proper : location ≠ [] := by
        rintro rfl
        simp at found
      by_cases same : other = location
      · subst same
        simp [shapeAt, get?_set proper, found, Node.shape]
      · simp [shapeAt, get?_set proper, same]
  · rfl

theorem shapeAt_writeAt (offset : Nat) (bytes : Bytes) (other : Location) :
    (tree.writeAt location offset bytes).shapeAt other = tree.shapeAt other := by
  unfold writeAt
  split
  · exact shapeAt_setContents _ other
  · rfl

theorem get?_setContents_of_ne {other : Location} (different : other ≠ location)
    (contents : Bytes) :
    (tree.setContents location contents).get? other = tree.get? other := by
  unfold setContents
  split
  · exact get?_set_of_ne tree different _
  · rfl

theorem get?_setModeAt_of_ne {other : Location} (different : other ≠ location) (mode : Nat) :
    (tree.setModeAt location mode).get? other = tree.get? other := by
  unfold setModeAt
  split
  · exact get?_set_of_ne tree different _
  · rfl

theorem get?_writeAt_of_ne {other : Location} (different : other ≠ location) (offset : Nat)
    (bytes : Bytes) : (tree.writeAt location offset bytes).get? other = tree.get? other := by
  unfold writeAt
  split
  · exact get?_setContents_of_ne different _
  · rfl

/-! ## Trees that differ in some files only -/

/-- Two trees are the same but for what the files at some locations hold. -/
structure Alike (apart : Location → Prop) (first second : FileTree) : Prop where
  shape : ∀ location, second.shapeAt location = first.shapeAt location
  same : ∀ location, ¬ apart location → second.get? location = first.get? location

namespace Alike

variable {apart : Location → Prop} {first second third : FileTree}

theorem refl (tree : FileTree) : Alike apart tree tree :=
  ⟨fun _ => rfl, fun _ _ => rfl⟩

theorem symm (alike : Alike apart first second) : Alike apart second first :=
  ⟨fun location => (alike.shape location).symm,
    fun location other => (alike.same location other).symm⟩

theorem trans (alike : Alike apart first second) (further : Alike apart second third) :
    Alike apart first third :=
  ⟨fun location => (further.shape location).trans (alike.shape location),
    fun location other => (further.same location other).trans (alike.same location other)⟩

theorem grows (alike : Alike apart first second) : Grows first second :=
  .of_shapeAt_eq alike.shape

theorem present_iff (alike : Alike apart first second) {location : Location} :
    second.get? location ≠ none ↔ first.get? location ≠ none :=
  ⟨alike.symm.grows.present, alike.grows.present⟩

theorem writeAt {tree : FileTree} {location : Location} (permitted : apart location)
    (offset : Nat) (bytes : Bytes) : Alike apart tree (tree.writeAt location offset bytes) := by
  refine ⟨shapeAt_writeAt offset bytes, ?_⟩
  intro other forbidden
  refine get?_writeAt_of_ne ?_ offset bytes
  rintro rfl
  exact forbidden permitted

end Alike

end FileTree

end BridgeSetup
