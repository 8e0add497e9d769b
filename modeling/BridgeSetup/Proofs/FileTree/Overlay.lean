import BridgeSetup.Proofs.FileTree.Directories
import BridgeSetup.Proofs.FileTree.Resolving

/-!
# Overlays

What writing files does to a tree is an overlay: at some locations it puts other contents,
and other permission bits where these are given. `Lays` says that a tree has been changed by
an overlay and has got new directories, `Relays` that only the overlay has changed it.

Overlays are laid one after the other (`Lays.trans`). To lay the last ones again changes
nothing, because in each place the last contents and the last permission bits win
(`Lays.alike_of_relays`).
-/

namespace BridgeSetup.FileTree

/-- What is written to a file: its contents, and its permission bits if these are given. -/
structure Patch where
  contents : Bytes
  mode : Option Nat

/-- The file that comes of a patch where there were the given permission bits. -/
def Patch.node (patch : Patch) (mode : Nat) : Node :=
  .file patch.contents (patch.mode.getD mode)

/-- A patch for some locations. -/
abbrev Overlay := Location → Option Patch

namespace Overlay

/-- No patch anywhere. -/
def blank : Overlay := fun _ => none

/-- A patch for one location. -/
def single (location : Location) (patch : Patch) : Overlay := fun other =>
  if other = location then some patch else none

/-- An overlay and another one on top of it. -/
def andThen (first second : Overlay) : Overlay := fun location =>
  match second location with
  | none => first location
  | some later => some ⟨later.contents, later.mode.or ((first location).bind Patch.mode)⟩

/-- What becomes of the node at a location. -/
def nodeAt (overlay : Overlay) (location : Location) (node : Option Node) : Option Node :=
  match overlay location with
  | none => node
  | some patch => some (patch.node (modeOf node))

variable {overlay first second : Overlay} {location : Location}

theorem nodeAt_of_none (outside : overlay location = none) (node : Option Node) :
    overlay.nodeAt location node = node := by
  simp [nodeAt, outside]

theorem nodeAt_andThen (node : Option Node) :
    (first.andThen second).nodeAt location node =
      second.nodeAt location (first.nodeAt location node) := by
  unfold nodeAt andThen
  rcases second location with _ | ⟨contents, mode⟩
  · rfl
  · rcases first location with _ | ⟨earlier, earlierMode⟩
    · simp [Patch.node]
    · rcases mode with _ | mode <;> simp [Patch.node, modeOf]

/-- A patch that is applied a second time changes nothing. -/
theorem nodeAt_nodeAt (node : Option Node) :
    overlay.nodeAt location (overlay.nodeAt location node) = overlay.nodeAt location node := by
  unfold nodeAt
  rcases overlay location with _ | ⟨contents, mode⟩
  · rfl
  · rcases mode with _ | mode <;> simp [Patch.node, modeOf]

theorem andThen_eq_none_iff :
    (first.andThen second) location = none ↔
      first location = none ∧ second location = none := by
  unfold andThen
  rcases second location with _ | later <;> simp

theorem eq_of_single {patch : Patch} {other : Location}
    (covered : single location patch other ≠ none) : other = location := by
  by_contra different
  exact covered (by simp [single, different])

theorem andThen_assoc (first second third : Overlay) :
    (first.andThen second).andThen third = first.andThen (second.andThen third) := by
  funext location
  unfold andThen
  rcases third location with _ | ⟨contents, mode⟩
  · rfl
  · rcases second location with _ | ⟨earlier, earlierMode⟩ <;> simp [Option.or_assoc]

theorem blank_andThen (overlay : Overlay) : blank.andThen overlay = overlay := by
  funext location
  unfold andThen blank
  rcases overlay location with _ | ⟨contents, mode⟩ <;> simp

end Overlay

/-! ## Regular files -/

/-- The contents and the permission bits of a regular file. -/
def fileOf : Option Node → Option (Bytes × Nat)
  | some (.file contents mode) => some (contents, mode)
  | _ => none

/-- What the regular file at a location holds, and its permission bits. -/
def fileAt? (tree : FileTree) (location : Location) : Option (Bytes × Nat) :=
  fileOf (tree.get? location)

theorem contentsAt?_eq (tree : FileTree) (location : Location) :
    tree.contentsAt? location = (tree.fileAt? location).map Prod.fst := by
  unfold contentsAt? fileAt?
  rcases tree.get? location with _ | ⟨_, _⟩ | _ | _ <;> rfl

theorem modeAt?_eq (tree : FileTree) (location : Location) :
    tree.modeAt? location = (tree.fileAt? location).map Prod.snd := by
  unfold modeAt? fileAt?
  rcases tree.get? location with _ | ⟨_, _⟩ | _ | _ <;> rfl

theorem modeOf_eq (node : Option Node) :
    modeOf node = ((fileOf node).map Prod.snd).getD defaultMode := by
  rcases node with _ | ⟨_, _⟩ | _ | _ <;> rfl

theorem contentsAt?_congr {first second : FileTree} {location : Location}
    (same : second.fileAt? location = first.fileAt? location) :
    second.contentsAt? location = first.contentsAt? location := by
  rw [contentsAt?_eq, contentsAt?_eq, same]

theorem modeAt?_congr {first second : FileTree} {location : Location}
    (same : second.fileAt? location = first.fileAt? location) :
    second.modeAt? location = first.modeAt? location := by
  rw [modeAt?_eq, modeAt?_eq, same]

/-- What can be opened for reading can be opened again when the file is what it was. -/
theorem openForReading_again {earlier later : FileTree} {refusals : Refusals} {here : Location}
    {path : Path} {location : Location}
    (opens : earlier.openForReading here path refusals = .ok location)
    (grows : earlier.Grows later) (same : later.fileAt? location = earlier.fileAt? location) :
    later.openForReading here path refusals = .ok location := by
  rw [openForReading_eq_ok_iff] at opens ⊢
  rw [modeAt?_congr same]
  exact ⟨grows.locate opens.1, opens.2⟩

/-- What a patch makes of a node depends on the file there, and on nothing else. -/
theorem Overlay.fileOf_nodeAt {overlay : Overlay} {location : Location} {node other : Option Node}
    (same : fileOf other = fileOf node) :
    fileOf (overlay.nodeAt location other) = fileOf (overlay.nodeAt location node) := by
  unfold Overlay.nodeAt
  rcases overlay location with _ | patch
  · exact same
  · rw [modeOf_eq, modeOf_eq, same]

/-! ## Laying an overlay -/

/-- An overlay has been laid over the files of a tree, and some directories are new. Nothing
is said about what the files at locations apart hold. -/
structure Lays (apart : Location → Prop) (overlay : Overlay) (before after : FileTree) :
    Prop where
  grows : Grows before after
  node : ∀ location, ¬ apart location →
    after.get? location = overlay.nodeAt location (before.get? location) ∨
      overlay location = none ∧ before.get? location = none ∧
        after.get? location = some .directory

/-- An overlay has been laid over the files of a tree that had all of them. -/
structure Relays (apart : Location → Prop) (overlay : Overlay) (before after : FileTree) :
    Prop where
  shape : ∀ location, after.shapeAt location = before.shapeAt location
  node : ∀ location, ¬ apart location →
    after.get? location = overlay.nodeAt location (before.get? location)

variable {apart : Location → Prop} {overlay early first second : Overlay}
  {before middle after : FileTree} {location : Location}

namespace Lays

theorem of_alike (alike : Alike apart before after) : Lays apart .blank before after :=
  ⟨alike.grows, fun location elsewhere => Or.inl (alike.same location elsewhere)⟩

theorem trans (earlier : Lays apart first before middle)
    (later : Lays apart second middle after) :
    Lays apart (first.andThen second) before after := by
  refine ⟨earlier.grows.trans later.grows, ?_⟩
  intro location elsewhere
  rw [Overlay.nodeAt_andThen, Overlay.andThen_eq_none_iff]
  rcases earlier.node location elsewhere with patched | ⟨outside, absent, fresh⟩
  · rcases later.node location elsewhere with patchedAgain | ⟨outside, absent, fresh⟩
    · left
      rw [patchedAgain, patched]
    · right
      rw [patched] at absent
      rcases covered : first location with _ | patch
      · rw [Overlay.nodeAt_of_none covered] at absent
        exact ⟨⟨rfl, outside⟩, absent, fresh⟩
      · simp [Overlay.nodeAt, covered] at absent
  · rcases later.node location elsewhere with patched | ⟨_, absentLater, _⟩
    · rw [fresh] at patched
      rw [Overlay.nodeAt_of_none outside, absent]
      rcases covered : second location with _ | patch
      · right
        exact ⟨⟨outside, rfl⟩, rfl, by rw [patched, Overlay.nodeAt_of_none covered]⟩
      · left
        rw [patched]
        simp [Overlay.nodeAt, covered, modeOf]
    · rw [fresh] at absentLater
      cases absentLater

end Lays

namespace Relays

theorem of_alike (alike : Alike apart before after) : Relays apart .blank before after :=
  ⟨alike.shape, fun location elsewhere => alike.same location elsewhere⟩

theorem trans (earlier : Relays apart first before middle)
    (later : Relays apart second middle after) :
    Relays apart (first.andThen second) before after := by
  refine ⟨fun location => (later.shape location).trans (earlier.shape location), ?_⟩
  intro location elsewhere
  rw [Overlay.nodeAt_andThen, later.node location elsewhere, earlier.node location elsewhere]

theorem grows (relays : Relays apart overlay before after) : Grows before after :=
  .of_shapeAt_eq relays.shape

theorem shrinks (relays : Relays apart overlay before after) : Grows after before :=
  .of_shapeAt_eq fun location => (relays.shape location).symm

theorem fileAt_of_none (relays : Relays apart overlay before after)
    (elsewhere : ¬ apart location) (outside : overlay location = none) :
    after.fileAt? location = before.fileAt? location := by
  rw [fileAt?, fileAt?, relays.node location elsewhere, Overlay.nodeAt_of_none outside]

end Relays

/-- When the last of the overlays that have been laid over a tree is laid again, nothing
changes. -/
theorem Lays.alike_of_relays {start left again last : FileTree}
    (lays : Lays apart (early.andThen overlay) start left) (alike : Alike apart left again)
    (relays : Relays apart overlay again last) : Alike apart left last := by
  refine ⟨fun location => (relays.shape location).trans (alike.shape location), ?_⟩
  intro location elsewhere
  rw [relays.node location elsewhere, alike.same location elsewhere]
  rcases lays.node location elsewhere with patched | ⟨outside, _, _⟩
  · rw [patched, Overlay.nodeAt_andThen, Overlay.nodeAt_nodeAt]
  · rw [Overlay.andThen_eq_none_iff] at outside
    exact Overlay.nodeAt_of_none outside.2 _

theorem Lays.fileAt?_eq (lays : Lays apart overlay before after) (elsewhere : ¬ apart location) :
    after.fileAt? location = fileOf (overlay.nodeAt location (before.get? location)) := by
  unfold fileAt?
  rcases lays.node location elsewhere with patched | ⟨outside, absent, fresh⟩
  · rw [patched]
  · rw [Overlay.nodeAt_of_none outside, absent, fresh]
    rfl

/-- Where an overlay is laid again on the file that it was laid on, it leaves the file that it
left. -/
theorem Lays.fileAt_eq {again last : FileTree} (lays : Lays apart overlay before after)
    (relays : Relays apart overlay again last) (elsewhere : ¬ apart location)
    (same : again.fileAt? location = before.fileAt? location) :
    last.fileAt? location = after.fileAt? location := by
  rw [lays.fileAt?_eq elsewhere, fileAt?, relays.node location elsewhere]
  exact Overlay.fileOf_nodeAt same

/-- Where an overlay is laid again on the file that it left, it leaves it once more. -/
theorem Lays.fileAt_again {again last : FileTree} (lays : Lays apart overlay before after)
    (relays : Relays apart overlay again last) (elsewhere : ¬ apart location)
    (same : again.fileAt? location = after.fileAt? location) :
    last.fileAt? location = after.fileAt? location := by
  rw [lays.fileAt?_eq elsewhere] at same ⊢
  rw [fileAt?, relays.node location elsewhere, Overlay.fileOf_nodeAt same, Overlay.nodeAt_nodeAt]

theorem Lays.fileAt_of_none (lays : Lays apart overlay before after)
    (elsewhere : ¬ apart location) (outside : overlay location = none) :
    after.fileAt? location = before.fileAt? location := by
  rw [lays.fileAt?_eq elsewhere, Overlay.nodeAt_of_none outside]
  rfl

theorem Lays.fileAt_blank (lays : Lays apart .blank before after) (elsewhere : ¬ apart location) :
    after.fileAt? location = before.fileAt? location :=
  lays.fileAt_of_none elsewhere rfl

/-- A file that none of the paths names at which an overlay has been laid is not covered by
it. -/
theorem Lays.outside (lays : Lays apart overlay before after) {here : Location}
    {paths : Path → Prop}
    (placed : ∀ location, overlay location ≠ none → ∃ path, paths path ∧
      after.Targets here path location) {left : FileTree} (grows : after.Grows left)
    {other : Path} (distinct : ∀ path, paths path → ¬ left.SameFile here path other)
    (located : left.locate here other = .ok location) (elsewhere : ¬ apart location) :
    overlay location = none := by
  by_contra covered
  rcases placed location covered with ⟨path, named, targets⟩
  rcases lays.node location elsewhere with patched | ⟨outside, _⟩
  · rcases Option.ne_none_iff_exists'.mp covered with ⟨patch, there⟩
    have found : after.get? location = some (patch.node (modeOf (before.get? location))) := by
      rw [patched, Overlay.nodeAt, there]
    rcases grows.file found with ⟨contents, mode, foundLater⟩
    have present : left.get? location ≠ none := by simp [foundLater]
    exact distinct path named ⟨location, contents, mode, (targets.grow grows).locate present,
      located, foundLater⟩
  · exact covered outside

/-! ## Files and directories -/

variable {tree : FileTree} {here : Location} {path : Path}

/-- The tree with a patch at a location. -/
def patchAt (tree : FileTree) (location : Location) (patch : Patch) : FileTree :=
  tree.set location (patch.node (tree.modeAt location))

theorem get?_patchAt (proper : location ≠ []) (patch : Patch) (other : Location) :
    (tree.patchAt location patch).get? other =
      (Overlay.single location patch).nodeAt other (tree.get? other) := by
  rw [patchAt, get?_set proper]
  by_cases same : other = location
  · subst same
    simp [Overlay.nodeAt, Overlay.single, modeAt]
  · simp [Overlay.nodeAt, Overlay.single, same]

theorem Targets.pathExists_patchAt (targets : tree.Targets here path location)
    (free : tree.isDirectoryAt location = false) (patch : Patch) :
    (tree.patchAt location patch).pathExists here path = true :=
  targets.pathExists_set free _ _

theorem Targets.grows_patchAt (targets : tree.Targets here path location)
    (free : tree.isDirectoryAt location = false) (patch : Patch) :
    tree.Grows (tree.patchAt location patch) :=
  grows_set (targets.fits free _ _)

theorem Targets.grow_patchAt (targets : tree.Targets here path location)
    (free : tree.isDirectoryAt location = false) (patch : Patch) :
    (tree.patchAt location patch).Targets here path location :=
  targets.grow (targets.grows_patchAt free patch)

theorem Targets.lays (targets : tree.Targets here path location)
    (free : tree.isDirectoryAt location = false) (patch : Patch) :
    Lays apart (.single location patch) tree (tree.patchAt location patch) := by
  refine ⟨targets.grows_patchAt free patch, ?_⟩
  intro other _
  exact Or.inl (get?_patchAt targets.proper patch other)

theorem Targets.relays (targets : tree.Targets here path location) {contents : Bytes} {mode : Nat}
    (found : tree.get? location = some (.file contents mode)) (patch : Patch) :
    Relays apart (.single location patch) tree (tree.patchAt location patch) := by
  refine ⟨?_, fun other _ => get?_patchAt targets.proper patch other⟩
  intro other
  by_cases same : other = location
  · subst same
    simp [shapeAt, patchAt, get?_set_self _ targets.proper, found, Patch.node, Node.shape]
  · simp [shapeAt, patchAt, get?_set_of_ne _ same]

/-- A file that has been written can be written again in every tree that has grown from that,
unless it is refused to open a file that exists. -/
theorem Targets.again {refusals : Refusals} (reopens : refusals.Reopens)
    (targets : tree.Targets here path location) (free : tree.isDirectoryAt location = false)
    {patch : Patch} {later : FileTree} (grows : (tree.patchAt location patch).Grows later) :
    later.Targets here path location ∧ later.Writable refusals location ∧
      ∀ apart other,
        Relays apart (.single location other) later (later.patchAt location other) := by
  rcases grows.file (get?_set_self tree targets.proper _) with ⟨contents, mode, found⟩
  have targetsLater := (targets.grow_patchAt free patch).grow grows
  have writable : later.Writable refusals location := by
    refine ⟨by simp [isDirectoryAt, found], ?_⟩
    rw [modeAt?, found]
    exact reopens location mode
  exact ⟨targetsLater, writable, fun _ other => targetsLater.relays found other⟩

theorem makeDirectories_lays (apart : Location → Prop) (refusals : Refusals) (here : Location)
    (path : Path) (tree : FileTree) :
    Lays apart .blank tree ((makeDirectories here path refusals).runOn tree).2 := by
  refine @makeAlong_keeps here refusals path.ancestors (Lays apart .blank) ?_ ?_ ?_ tree
  · intro tree
    exact .of_alike (.refl tree)
  · intro before middle after earlier later
    exact earlier.trans later
  · intro ancestor _ tree location makes
    refine ⟨grows_set makes.fits, ?_⟩
    intro other _
    by_cases same : other = location
    · subst same
      exact Or.inr ⟨rfl, makes.absent.2, get?_set_self tree makes.absent.1 _⟩
    · exact Or.inl (get?_set_of_ne tree same _)

end BridgeSetup.FileTree
