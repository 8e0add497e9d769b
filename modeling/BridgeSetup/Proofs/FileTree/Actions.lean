import BridgeSetup.Proofs.FileTree.Reach
import BridgeSetup.Proofs.Path.Joining

/-!
# Actions on a file tree

How actions run one after the other, what it means that a path can be written, and what
opening a file for writing does: it fails and leaves the tree as it is, or empties or makes
the file at the place of its path. It fails also when the operating system refuses it, and is
otherwise possible wherever there is no directory (`Writable`).

`Touches` is the frame of an action: the tree grows, and nothing but allowed locations
changes. Made of several steps, an action touches what its steps touch, because the way of a
path is the same all along.
-/

namespace BridgeSetup

namespace TreeAction

variable {α β : Type}

@[simp]
theorem runOn_pure (value : α) (tree : FileTree) :
    (pure value : TreeAction α).runOn tree = (.ok value, tree) := rfl

@[simp]
theorem runOn_throw (error : IoError) (tree : FileTree) :
    (throw error : TreeAction α).runOn tree = (.error error, tree) := rfl

@[simp]
theorem runOn_look (question : FileTree → Except IoError α) (tree : FileTree) :
    (look question).runOn tree = (question tree, tree) := rfl

@[simp]
theorem runOn_change (f : FileTree → FileTree) (tree : FileTree) :
    (change f).runOn tree = (.ok (), f tree) := rfl

@[simp]
theorem runOn_ofExcept (result : Except IoError α) (tree : FileTree) :
    (ofExcept result).runOn tree = (result, tree) := rfl

theorem runOn_bind (action : TreeAction α) (next : α → TreeAction β) (tree : FileTree) :
    (action >>= next).runOn tree =
      match action.runOn tree with
      | (.ok value, left) => (next value).runOn left
      | (.error error, left) => (.error error, left) := by
  simp only [runOn, bind, ExceptT.bind, ExceptT.mk, StateT.bind]
  rcases action tree with ⟨_ | _, left⟩ <;> rfl

theorem runOn_bind_eq_ok {action : TreeAction α} {next : α → TreeAction β}
    {tree last : FileTree} {result : β} (run : (action >>= next).runOn tree = (.ok result, last)) :
    ∃ value left, action.runOn tree = (.ok value, left) ∧
      (next value).runOn left = (.ok result, last) := by
  rw [runOn_bind] at run
  split at run
  · next value left first => exact ⟨value, left, first, run⟩
  · cases run

end TreeAction

/-- It is not refused to open a regular file for writing that exists. -/
def Refusals.Reopens (refusals : Refusals) : Prop :=
  ∀ location mode, refusals.write location (some mode) = Option.none

namespace FileTree

/-! ## Locations of paths -/

theorem fromSystem_eq_ok {α : Type} {result : Except Fault α} {value : α} :
    fromSystem result = .ok value ↔ result = .ok value := by
  rcases result with _ | _ <;> simp [fromSystem]

theorem locate_eq_ok_iff {tree : FileTree} {here : Location} {path : Path}
    {location : Location} :
    tree.locate here path = .ok location ↔
      checkPath path = .ok () ∧
        ∃ used ≤ maxLinks, tree.Leads used (path.startFrom here) path.segments location := by
  unfold locate
  rcases checkPath path with _ | ⟨⟩
  · simp [bind, Except.bind]
  · simp only [bind, Except.bind, true_and]
    rw [fromSystem_eq_ok, walk_eq_ok_iff]

theorem Grows.locate {before after : FileTree} (grows : Grows before after) {here : Location}
    {path : Path} {location : Location} (located : before.locate here path = .ok location) :
    after.locate here path = .ok location := by
  rw [locate_eq_ok_iff] at located ⊢
  rcases located with ⟨checked, used, bound, leads⟩
  exact ⟨checked, used, bound, leads.grow grows⟩

theorem onWay_of_locate {tree : FileTree} {here : Location} {path : Path} {location : Location}
    (located : tree.locate here path = .ok location) : tree.OnWay here path location := by
  rw [locate_eq_ok_iff] at located
  rcases located with ⟨_, used, _, leads⟩
  exact ⟨[], leads.reaches⟩

theorem pathExists_iff {tree : FileTree} {here : Location} {path : Path} :
    tree.pathExists here path = true ↔
      ∃ location, tree.locate here path = .ok location ∧ tree.get? location ≠ none := by
  unfold pathExists find?
  rcases tree.locate here path with _ | location
  · simp
  · simp [Option.isSome_iff_ne_none]

theorem Grows.pathExists {before after : FileTree} (grows : Grows before after)
    {here : Location} {path : Path} (there : before.pathExists here path = true) :
    after.pathExists here path = true := by
  rcases pathExists_iff.mp there with ⟨location, located, present⟩
  exact pathExists_iff.mpr ⟨location, grows.locate located, grows.present present⟩

theorem pathExists_eq_of_grows {before after : FileTree} (grows : Grows before after)
    (shrinks : Grows after before) (here : Location) (path : Path) :
    after.pathExists here path = before.pathExists here path := by
  rw [Bool.eq_iff_iff]
  exact ⟨shrinks.pathExists, grows.pathExists⟩

theorem Alike.pathExists_eq {apart : Location → Prop} {first second : FileTree}
    (alike : Alike apart first second) (here : Location) (path : Path) :
    second.pathExists here path = first.pathExists here path :=
  pathExists_eq_of_grows alike.grows alike.symm.grows here path

theorem present_of_onWay {tree : FileTree} {here : Location} {path : Path}
    (there : tree.pathExists here path = true) {location : Location}
    (onWay : tree.OnWay here path location) : tree.get? location ≠ none := by
  rcases pathExists_iff.mp there with ⟨last, located, present⟩
  rcases locate_eq_ok_iff.mp located with ⟨_, used, _, leads⟩
  rcases onWay with ⟨left, reaches⟩
  exact leads.present_of_reaches present reaches

theorem readAt_eq_ok_iff {tree : FileTree} {location : Location} {bytes : Bytes} :
    tree.readAt location = .ok bytes ↔ tree.contentsAt? location = some bytes := by
  unfold readAt contentsAt?
  rcases tree.get? location with _ | ⟨_, _⟩ | _ | _ <;> simp

theorem readAt_of_same {earlier later : FileTree} {location : Location} {bytes : Bytes}
    (same : later.contentsAt? location = earlier.contentsAt? location)
    (contents : earlier.readAt location = .ok bytes) : later.readAt location = .ok bytes := by
  rw [readAt_eq_ok_iff] at contents ⊢
  rw [same, contents]

theorem openForReading_eq_ok_iff {tree : FileTree} {refusals : Refusals} {here : Location}
    {path : Path} {location : Location} :
    tree.openForReading here path refusals = .ok location ↔
      tree.locate here path = .ok location ∧
        refusals.read location (tree.modeAt? location) = none := by
  unfold openForReading
  rcases tree.locate here path with error | place
  · simp [bind, Except.bind]
  rcases refused : refusals.read place (tree.modeAt? place) with _ | fault
  · simp only [bind, Except.bind, refused, Refusals.check_none, pure, Except.pure,
      Except.ok.injEq, iff_self_and]
    rintro rfl
    exact refused
  · simp only [bind, Except.bind, refused, Refusals.check_some, Except.ok.injEq, reduceCtorEq,
      false_iff, not_and]
    rintro rfl
    simp [refused]

theorem locate_of_openForReading {tree : FileTree} {refusals : Refusals} {here : Location}
    {path : Path} {location : Location}
    (opens : tree.openForReading here path refusals = .ok location) :
    tree.locate here path = .ok location :=
  (openForReading_eq_ok_iff.mp opens).1

theorem openForReading_none {tree : FileTree} {here : Location} {path : Path} :
    tree.openForReading here path = tree.locate here path := by
  unfold openForReading
  rcases tree.locate here path with _ | _ <;> rfl

/-- Writing to a path writes the regular file at a location. -/
def Targets (tree : FileTree) (here : Location) (path : Path) (location : Location) : Prop :=
  checkPath path = .ok () ∧
    ∃ used ≤ maxLinks, tree.Places used (path.startFrom here) path.segments location

theorem targets_of_locateTarget {tree : FileTree} {here : Location} {path : Path}
    {location : Location} (located : tree.locateTarget here path = .ok location) :
    tree.isDirectoryAt location = true ∨ tree.Targets here path location := by
  unfold locateTarget at located
  rcases checked : checkPath path with _ | ⟨⟩
  · simp [checked, bind, Except.bind] at located
  · simp only [checked, bind, Except.bind] at located
    rcases places_of_place (segments_ne_nil path) (fromSystem_eq_ok.mp located) with
      directory | places
    · exact Or.inl directory
    · exact Or.inr ⟨checked, places⟩

theorem Targets.locateTarget {tree : FileTree} {here : Location} {path : Path}
    {location : Location} (targets : tree.Targets here path location) :
    tree.locateTarget here path = .ok location := by
  rcases targets with ⟨checked, used, bound, places⟩
  simp only [FileTree.locateTarget, checked, places.place_eq_ok bound]
  rfl

theorem Targets.grow {before after : FileTree} {here : Location} {path : Path}
    {location : Location} (targets : before.Targets here path location)
    (grows : Grows before after) : after.Targets here path location := by
  rcases targets with ⟨checked, used, bound, places⟩
  exact ⟨checked, used, bound, places.grow grows⟩

theorem Targets.onWay {tree : FileTree} {here : Location} {path : Path} {location : Location}
    (targets : tree.Targets here path location) : tree.OnWay here path location := by
  rcases targets with ⟨_, used, _, places⟩
  exact ⟨[], places.reaches⟩

theorem Targets.locate {tree : FileTree} {here : Location} {path : Path} {location : Location}
    (targets : tree.Targets here path location) (present : tree.get? location ≠ none) :
    tree.locate here path = .ok location := by
  rcases targets with ⟨checked, used, bound, places⟩
  exact locate_eq_ok_iff.mpr ⟨checked, used, bound, places.leads present⟩

/-- A path to be written names something exactly when there is a node in its place. -/
theorem Targets.pathExists_iff {tree : FileTree} {here : Location} {path : Path}
    {location : Location} (targets : tree.Targets here path location) :
    tree.pathExists here path = true ↔ tree.get? location ≠ none := by
  rw [FileTree.pathExists_iff]
  constructor
  · rintro ⟨other, located, present⟩
    rcases locate_eq_ok_iff.mp located with ⟨_, _, _, leads⟩
    rcases targets with ⟨_, _, _, places⟩
    rwa [places.reaches.unique rfl leads.reaches]
  · intro present
    exact ⟨location, targets.locate present, present⟩

theorem Targets.proper {tree : FileTree} {here : Location} {path : Path} {location : Location}
    (targets : tree.Targets here path location) : location ≠ [] := by
  rcases targets with ⟨_, used, _, places⟩
  exact places.target.1

/-! ## Frames -/

/-- The tree grows, and nothing but allowed locations changes. -/
structure Touches (allowed : Location → Prop) (before after : FileTree) : Prop where
  grows : Grows before after
  same : ∀ location, ¬ allowed location → after.get? location = before.get? location

namespace Touches

variable {allowed : Location → Prop} {before middle after : FileTree}

theorem refl (tree : FileTree) : Touches allowed tree tree :=
  ⟨.refl tree, fun _ _ => rfl⟩

theorem trans (earlier : Touches allowed before middle) (later : Touches allowed middle after) :
    Touches allowed before after := by
  refine ⟨earlier.grows.trans later.grows, ?_⟩
  intro location forbidden
  rw [later.same location forbidden, earlier.same location forbidden]

theorem mono {wider : Location → Prop} (touches : Touches allowed before after)
    (within : ∀ location, allowed location → wider location) : Touches wider before after := by
  refine ⟨touches.grows, ?_⟩
  intro location forbidden
  exact touches.same location (fun permitted => forbidden (within location permitted))

/-- What is touched may as well be judged by the earlier of two trees. -/
theorem onWay_grow {earlier : FileTree} {here : Location} {path : Path}
    (touches : Touches (before.OnWay here path) before after) (grows : Grows earlier before) :
    Touches (earlier.OnWay here path) before after :=
  touches.mono fun _ onWay => grows.onWay_iff.mp onWay

theorem set {tree : FileTree} {location : Location} {node : Node} (permitted : allowed location)
    (fits : tree.shapeAt location = some node.shape ∨
      tree.get? location = none ∧ ∀ target, node ≠ .link target) :
    Touches allowed tree (tree.set location node) := by
  refine ⟨grows_set fits, ?_⟩
  intro other forbidden
  refine get?_set_of_ne tree ?_ node
  rintro rfl
  exact forbidden permitted

theorem setContents {tree : FileTree} {location : Location} (permitted : allowed location)
    (contents : Bytes) : Touches allowed tree (tree.setContents location contents) := by
  refine ⟨.of_shapeAt_eq (shapeAt_setContents contents), ?_⟩
  intro other forbidden
  refine get?_setContents_of_ne ?_ contents
  rintro rfl
  exact forbidden permitted

theorem setModeAt {tree : FileTree} {location : Location} (permitted : allowed location)
    (mode : Nat) : Touches allowed tree (tree.setModeAt location mode) := by
  refine ⟨.of_shapeAt_eq (shapeAt_setModeAt mode), ?_⟩
  intro other forbidden
  refine get?_setModeAt_of_ne ?_ mode
  rintro rfl
  exact forbidden permitted

end Touches

/-! ## Files -/

theorem set_set (tree : FileTree) (location : Location) (first second : Node) :
    (tree.set location first).set location second = tree.set location second := by
  simp [set, List.filter_filter]

/-- The permission bits of a regular file, or those of a new file. -/
def modeOf : Option Node → Nat
  | some (.file _ mode) => mode
  | _ => defaultMode

/-- The permission bits of the regular file at a location, or those of a new file. -/
def modeAt (tree : FileTree) (location : Location) : Nat :=
  modeOf (tree.get? location)

theorem Targets.fits {tree : FileTree} {here : Location} {path : Path} {location : Location}
    (targets : tree.Targets here path location) (free : tree.isDirectoryAt location = false)
    (contents : Bytes) (mode : Nat) :
    tree.shapeAt location = some (Node.file contents mode).shape ∨
      tree.get? location = none ∧ ∀ target, Node.file contents mode ≠ .link target := by
  rcases targets with ⟨_, used, _, places⟩
  rcases found : tree.get? location with _ | ⟨_, _⟩ | _ | target
  · exact Or.inr ⟨rfl, by simp⟩
  · left
    simp [shapeAt, found, Node.shape]
  · simp [isDirectoryAt, found] at free
  · exact absurd found (places.target.2 target)

theorem Targets.pathExists_set {tree : FileTree} {here : Location} {path : Path}
    {location : Location} (targets : tree.Targets here path location)
    (free : tree.isDirectoryAt location = false) (contents : Bytes) (mode : Nat) :
    (tree.set location (.file contents mode)).pathExists here path = true := by
  have grows := grows_set (targets.fits free contents mode)
  refine (targets.grow grows).pathExists_iff.mpr ?_
  simp [get?_set_self _ targets.proper]

theorem modeAt_eq (tree : FileTree) (location : Location) :
    tree.modeAt location = (tree.modeAt? location).getD defaultMode := by
  unfold modeAt modeAt?
  rcases tree.get? location with _ | ⟨_, _⟩ | _ | _ <;> rfl

/-- A location holds no directory, and the operating system does not refuse to open the regular
file there for writing, or to make it. -/
structure Writable (tree : FileTree) (refusals : Refusals) (location : Location) : Prop where
  free : tree.isDirectoryAt location = false
  granted : refusals.write location (tree.modeAt? location) = none

theorem openAt_of_writable {tree : FileTree} {refusals : Refusals} {location : Location}
    (writable : tree.Writable refusals location) :
    (openAt location refusals).runOn tree =
      (.ok (), tree.set location (.file [] (tree.modeAt location))) := by
  rw [modeAt_eq]
  simp [openAt, TreeAction.runOn, writable.free, writable.granted]

/-- A file is opened, or the tree stays as it is. -/
theorem openAt_run (tree : FileTree) (refusals : Refusals) (location : Location) :
    (∃ error, (openAt location refusals).runOn tree = (.error error, tree)) ∨
      tree.Writable refusals location := by
  rcases free : tree.isDirectoryAt location with _ | _
  · rcases granted : refusals.write location (tree.modeAt? location) with _ | fault
    · right
      exact ⟨free, granted⟩
    · left
      exact ⟨.system fault, by simp [openAt, TreeAction.runOn, free, granted]⟩
  · left
    exact ⟨.system .isADirectory, by simp [openAt, TreeAction.runOn, free]⟩

theorem Targets.openForWriting {tree : FileTree} {refusals : Refusals} {here : Location}
    {path : Path} {location : Location} (targets : tree.Targets here path location)
    (writable : tree.Writable refusals location) :
    (openForWriting here path refusals).runOn tree =
      (.ok location, tree.set location (.file [] (tree.modeAt location))) := by
  simp only [FileTree.openForWriting, TreeAction.runOn_bind, TreeAction.runOn_look,
    targets.locateTarget, openAt_of_writable writable, TreeAction.runOn_pure]

/-- A file is opened where its path puts it, or the tree stays as it is. -/
theorem openForWriting_run (tree : FileTree) (refusals : Refusals) (here : Location)
    (path : Path) :
    (∃ error, (openForWriting here path refusals).runOn tree = (.error error, tree)) ∨
      ∃ location, tree.Targets here path location ∧ tree.Writable refusals location := by
  rcases located : tree.locateTarget here path with error | location
  · left
    exact ⟨error, by simp [openForWriting, TreeAction.runOn_bind, located]⟩
  rcases openAt_run tree refusals location with ⟨error, failed⟩ | writable
  · left
    refine ⟨error, ?_⟩
    simp only [openForWriting, TreeAction.runOn_bind, TreeAction.runOn_look, located, failed]
  · right
    rcases targets_of_locateTarget located with directory | targets
    · cases directory.symm.trans writable.free
    · exact ⟨location, targets, writable⟩

theorem setContents_set {tree : FileTree} {location : Location} (proper : location ≠ [])
    (old new : Bytes) (mode : Nat) :
    (tree.set location (.file old mode)).setContents location new =
      tree.set location (.file new mode) := by
  simp only [setContents, get?_set_self tree proper, set_set]

theorem Targets.writeFile {tree : FileTree} {refusals : Refusals} {here : Location}
    {path : Path} {location : Location} (targets : tree.Targets here path location)
    (writable : tree.Writable refusals location) (contents : Bytes) :
    (writeFile here path contents refusals).runOn tree =
      (Refusals.check (refusals.overflow location contents),
        tree.set location
          (.file (refusals.admitted location contents) (tree.modeAt location))) := by
  rw [FileTree.writeFile, TreeAction.runOn_bind, targets.openForWriting writable]
  simp only [fillAt, TreeAction.runOn_bind, TreeAction.runOn_change, TreeAction.runOn_ofExcept,
    setContents_set targets.proper]

/-- A file is opened where its path puts it to be written, or the tree stays as it is. -/
theorem writeFile_run (tree : FileTree) (refusals : Refusals) (here : Location) (path : Path)
    (contents : Bytes) :
    (∃ error, (writeFile here path contents refusals).runOn tree = (.error error, tree)) ∨
      ∃ location, tree.Targets here path location ∧ tree.Writable refusals location := by
  rcases openForWriting_run tree refusals here path with ⟨error, failed⟩ | opened
  · left
    exact ⟨error, by rw [writeFile, TreeAction.runOn_bind, failed]⟩
  · exact Or.inr opened

theorem pathExists_of_writeFile {tree left : FileTree} {refusals : Refusals} {here : Location}
    {path : Path} {contents : Bytes}
    (run : (writeFile here path contents refusals).runOn tree = (.ok (), left)) :
    left.pathExists here path = true := by
  rcases writeFile_run tree refusals here path contents with
    ⟨error, failed⟩ | ⟨location, targets, writable⟩
  · cases failed.symm.trans run
  · have written := targets.writeFile writable contents
    rw [run, Prod.mk.injEq] at written
    rw [written.2]
    exact targets.pathExists_set writable.free _ _

end FileTree

end BridgeSetup
