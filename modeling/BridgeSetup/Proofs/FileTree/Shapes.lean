import BridgeSetup.Proofs.FileTree.Directories
import BridgeSetup.Proofs.FileTree.Resolving

/-!
# Trees of one shape

Where a path leads, and whether it can be written, depends on the shapes of the nodes alone,
also when it leads nowhere: in two trees of one shape walks fail in the same way.

`Matches` says more of two trees: their files hold the same, but at stale locations, and none of
them can be opened that cannot be opened in the other tree. Actions that read nothing stale keep
two trees matching and come to the same result (`Steady`), and a file that is written is stale no
longer (`Matches.setFile`).
-/

namespace BridgeSetup.FileTree

/-- The nodes of two trees have the same shapes. -/
def SameShape (first second : FileTree) : Prop :=
  ∀ location, second.shapeAt location = first.shapeAt location

namespace SameShape

variable {first second : FileTree}

theorem refl (tree : FileTree) : SameShape tree tree :=
  fun _ => rfl

theorem symm (same : SameShape first second) : SameShape second first :=
  fun location => (same location).symm

theorem grows (same : SameShape first second) : Grows first second :=
  .of_shapeAt_eq same

theorem isDirectoryAt_eq (same : SameShape first second) (location : Location) :
    second.isDirectoryAt location = first.isDirectoryAt location := by
  rw [Bool.eq_iff_iff]
  exact ⟨same.symm.grows.isDirectoryAt, same.grows.isDirectoryAt⟩

theorem isSome_eq (same : SameShape first second) (location : Location) :
    (second.get? location).isSome = (first.get? location).isSome := by
  have shape := congrArg Option.isSome (same location)
  simpa [shapeAt] using shape

/-- A question about a node that only asks whether it is there and where a link leads has the
same answer in both trees. -/
theorem match_eq {α : Type} (same : SameShape first second) (location : Location)
    (absent : α) (link : Path → α) (solid : α) :
    (match second.get? location with
      | none => absent
      | some (.link target) => link target
      | some _ => solid) =
    (match first.get? location with
      | none => absent
      | some (.link target) => link target
      | some _ => solid) := by
  have shape := same location
  unfold shapeAt at shape
  rcases found : first.get? location with _ | ⟨_, _⟩ | _ | target
  · rcases foundLater : second.get? location with _ | ⟨_, _⟩ | _ | _ <;>
      simp [found, foundLater] at shape ⊢
  · rcases foundLater : second.get? location with _ | ⟨_, _⟩ | _ | _ <;>
      simp [found, foundLater, Node.shape] at shape ⊢
  · rcases foundLater : second.get? location with _ | ⟨_, _⟩ | _ | _ <;>
      simp [found, foundLater, Node.shape] at shape ⊢
  · rcases foundLater : second.get? location with _ | ⟨_, _⟩ | _ | _ <;>
      simp [found, foundLater, Node.shape] at shape ⊢
    rw [shape]

/-! ## Walks -/

theorem stepThrough_eq (same : SameShape first second)
    (follow : Path → Location → List String → Except Fault Location) (here : Location)
    (segments : List String) :
    second.stepThrough follow here segments = first.stepThrough follow here segments := by
  induction segments generalizing here with
  | nil => rfl
  | cons segment rest ih =>
      unfold stepThrough
      simp only [same.isDirectoryAt_eq, ih]
      split
      · rfl
      split
      · rfl
      split
      · rfl
      split
      · rfl
      exact same.match_eq _ _ _ _

theorem walk_eq (same : SameShape first second) (links : Nat) (here : Location)
    (segments : List String) :
    second.walk links here segments = first.walk links here segments := by
  induction links generalizing here segments with
  | zero => exact same.stepThrough_eq _ here segments
  | succ links ih =>
      simp only [walk, ih]
      exact same.stepThrough_eq _ here segments

theorem placeLast_eq (same : SameShape first second)
    (follow : Path → Location → List String → Except Fault Location) (directory : Location)
    (last : String) (slashed : Bool) :
    second.placeLast follow directory last slashed =
      first.placeLast follow directory last slashed := by
  unfold placeLast
  split
  · rfl
  split
  · rfl
  split
  · next target found => simp only [same.grows.link_iff.mp found]
  · next notLink =>
      split
      · next target found => exact absurd (same.grows.link_iff.mpr found) (notLink target)
      · rfl

theorem stepToPlace_eq (same : SameShape first second)
    (follow : Path → Location → List String → Except Fault Location) (here : Location)
    (segments : List String) :
    second.stepToPlace follow here segments = first.stepToPlace follow here segments := by
  induction segments generalizing here with
  | nil => rfl
  | cons segment rest ih =>
      unfold stepToPlace
      simp only [same.isDirectoryAt_eq, same.placeLast_eq, ih]
      split
      · rfl
      split
      · rfl
      split
      · rfl
      split
      · rfl
      split
      · rfl
      split
      · rfl
      exact same.match_eq _ _ _ _

theorem place_eq (same : SameShape first second) (links : Nat) (here : Location)
    (segments : List String) :
    second.place links here segments = first.place links here segments := by
  induction links generalizing here segments with
  | zero => exact same.stepToPlace_eq _ here segments
  | succ links ih =>
      simp only [place, ih]
      exact same.stepToPlace_eq _ here segments

theorem locate_eq (same : SameShape first second) (here : Location) (path : Path) :
    second.locate here path = first.locate here path := by
  simp only [locate, same.walk_eq]

theorem locateTarget_eq (same : SameShape first second) (here : Location) (path : Path) :
    second.locateTarget here path = first.locateTarget here path := by
  simp only [locateTarget, same.place_eq]

theorem newDirectoryAt_eq (same : SameShape first second) (here : Location) (path : Path) :
    second.newDirectoryAt here path = first.newDirectoryAt here path := by
  simp only [newDirectoryAt, enclosing, same.walk_eq, same.isDirectoryAt_eq, same.isSome_eq]

theorem pathExists_eq (same : SameShape first second) (here : Location) (path : Path) :
    second.pathExists here path = first.pathExists here path :=
  pathExists_eq_of_grows same.grows same.symm.grows here path

theorem isFile_eq (same : SameShape first second) (here : Location) (path : Path) :
    second.isFile here path = first.isFile here path := by
  rw [Bool.eq_iff_iff]
  exact ⟨same.symm.grows.isFile, same.grows.isFile⟩

theorem isDirectory_eq (same : SameShape first second) (here : Location) (path : Path) :
    second.isDirectory here path = first.isDirectory here path := by
  rw [Bool.eq_iff_iff]
  exact ⟨same.symm.grows.isDirectory, same.grows.isDirectory⟩

theorem isSome_modeAt?_eq (same : SameShape first second) (location : Location) :
    (second.modeAt? location).isSome = (first.modeAt? location).isSome := by
  have shape := same location
  unfold shapeAt at shape
  unfold modeAt?
  generalize first.get? location = before, second.get? location = after at shape ⊢
  rcases before with _ | ⟨_, _⟩ | _ | _ <;> rcases after with _ | ⟨_, _⟩ | _ | _ <;>
    simp [Node.shape] at shape ⊢

theorem map_modeAt?_eq (same : SameShape first second) (location : Location) (mode : Nat) :
    (second.modeAt? location).map (fun _ => mode) =
      (first.modeAt? location).map fun _ => mode := by
  have both := same.isSome_modeAt?_eq location
  generalize first.modeAt? location = before, second.modeAt? location = after at both ⊢
  rcases before with _ | _ <;> rcases after with _ | _ <;> simp at both ⊢

theorem set (same : SameShape first second) (location : Location) {node other : Node}
    (shape : other.shape = node.shape) :
    SameShape (first.set location node) (second.set location other) := by
  intro place
  by_cases proper : location = []
  · subst proper
    simpa only [shapeAt, get?_set_root] using same place
  · by_cases there : place = location
    · subst there
      simp [shapeAt, get?_set proper, shape]
    · simpa [shapeAt, get?_set proper, there] using same place

end SameShape

/-- In trees of one shape, what is read through a path is the same only if the file that it
names holds the same. -/
theorem SameShape.contentsAt?_eq {first second : FileTree} (same : SameShape first second)
    {here : Location} {path : Path} (alike : second.read here path = first.read here path)
    {location : Location} (located : first.locate here path = .ok location) :
    second.contentsAt? location = first.contentsAt? location := by
  have locatedAgain := (same.locate_eq here path).trans located
  have reading (tree : FileTree) (found : tree.locate here path = .ok location) :
      tree.read here path = tree.readAt location := by
    simp [read, openForReading_none, found, bind, Except.bind]
  rw [reading first located, reading second locatedAgain] at alike
  rcases contents : first.contentsAt? location with _ | bytes
  · rcases contentsAgain : second.contentsAt? location with _ | bytes
    · rfl
    · rw [readAt_eq_ok_iff.mpr contentsAgain, eq_comm, readAt_eq_ok_iff, contents] at alike
      cases alike
  · rwa [readAt_eq_ok_iff.mpr contents, readAt_eq_ok_iff] at alike

/-! ## Contents -/

section Contents

variable {tree : FileTree} {location : Location}

theorem contentsAt?_set (proper : location ≠ []) (contents : Bytes) (mode : Nat)
    (other : Location) :
    (tree.set location (.file contents mode)).contentsAt? other =
      if other = location then some contents else tree.contentsAt? other := by
  unfold contentsAt?
  by_cases there : other = location
  · simp [get?_set proper, there]
  · simp [get?_set proper, there]

theorem contentsAt?_setDirectory (other : Location) :
    (tree.set location .directory).contentsAt? other =
      if other = location then none else tree.contentsAt? other := by
  unfold contentsAt?
  by_cases proper : location = []
  · subst proper
    by_cases there : other = [] <;> simp [there]
  · by_cases there : other = location <;> simp [get?_set proper, there]

theorem contentsAt?_setContents (contents : Bytes) (other : Location) :
    (tree.setContents location contents).contentsAt? other =
      if other = location then (tree.contentsAt? location).map fun _ => contents
      else tree.contentsAt? other := by
  rcases found : tree.get? location with _ | ⟨old, mode⟩ | _ | _
  · by_cases there : other = location <;> simp [setContents, contentsAt?, found, there]
  · have proper : location ≠ [] := by
      rintro rfl
      simp at found
    simp only [setContents, found, contentsAt?_set proper]
    simp [contentsAt?, found]
  · by_cases there : other = location <;> simp [setContents, contentsAt?, found, there]
  · by_cases there : other = location <;> simp [setContents, contentsAt?, found, there]

theorem contentsAt?_setModeAt (mode : Nat) (other : Location) :
    (tree.setModeAt location mode).contentsAt? other = tree.contentsAt? other := by
  unfold setModeAt
  split
  · next contents old found =>
      have proper : location ≠ [] := by
        rintro rfl
        simp at found
      rw [contentsAt?_set proper]
      split
      · next there => simp [contentsAt?, there, found]
      · rfl
  · rfl

/-- The contents of a file after bytes have been written to it; a gap is filled with zeros. -/
def written (offset : Nat) (bytes contents : Bytes) : Bytes :=
  contents.take offset ++ List.replicate (offset - contents.length) 0 ++ bytes ++
    contents.drop (offset + bytes.length)

theorem contentsAt?_writeAt (offset : Nat) (bytes : Bytes) (other : Location) :
    (tree.writeAt location offset bytes).contentsAt? other =
      if other = location then (tree.contentsAt? location).map (written offset bytes)
      else tree.contentsAt? other := by
  unfold writeAt
  rcases found : tree.contentsAt? location with _ | contents
  · by_cases there : other = location <;> simp [found, there]
  · simp only [contentsAt?_setContents, found]
    rfl

end Contents

/-! ## Permission bits -/

section Modes

variable {tree : FileTree} {location : Location}

theorem modeAt?_set (proper : location ≠ []) (contents : Bytes) (mode : Nat) (other : Location) :
    (tree.set location (.file contents mode)).modeAt? other =
      if other = location then some mode else tree.modeAt? other := by
  unfold modeAt?
  by_cases there : other = location
  · simp [get?_set proper, there]
  · simp [get?_set proper, there]

theorem modeAt?_setDirectory (other : Location) :
    (tree.set location .directory).modeAt? other =
      if other = location then none else tree.modeAt? other := by
  unfold modeAt?
  by_cases proper : location = []
  · subst proper
    by_cases there : other = [] <;> simp [there]
  · by_cases there : other = location <;> simp [get?_set proper, there]

theorem modeAt?_setContents (contents : Bytes) (other : Location) :
    (tree.setContents location contents).modeAt? other = tree.modeAt? other := by
  unfold setContents
  split
  · next old mode found =>
      have proper : location ≠ [] := by
        rintro rfl
        simp at found
      rw [modeAt?_set proper]
      split
      · next there => simp [modeAt?, there, found]
      · rfl
  · rfl

theorem modeAt?_setModeAt (mode : Nat) (other : Location) :
    (tree.setModeAt location mode).modeAt? other =
      if other = location then (tree.modeAt? location).map fun _ => mode
      else tree.modeAt? other := by
  rcases found : tree.get? location with _ | ⟨contents, old⟩ | _ | _
  · by_cases there : other = location <;> simp [setModeAt, modeAt?, found, there]
  · have proper : location ≠ [] := by
      rintro rfl
      simp at found
    simp only [setModeAt, found, modeAt?_set proper]
    simp [modeAt?, found]
  · by_cases there : other = location <;> simp [setModeAt, modeAt?, found, there]
  · by_cases there : other = location <;> simp [setModeAt, modeAt?, found, there]

theorem modeAt?_writeAt (offset : Nat) (bytes : Bytes) (other : Location) :
    (tree.writeAt location offset bytes).modeAt? other = tree.modeAt? other := by
  unfold writeAt
  split
  · exact modeAt?_setContents _ other
  · rfl

end Modes

/-! ## Trees that match -/

/-- A file can be opened with one kind of permission bits just as well as with the other. -/
structure SameRights (refusals : Refusals) (location : Location) (first second : Option Nat) :
    Prop where
  read : refusals.read location second = refusals.read location first
  write : refusals.write location second = refusals.write location first

theorem SameRights.refl {refusals : Refusals} {location : Location} (mode : Option Nat) :
    SameRights refusals location mode mode :=
  ⟨rfl, rfl⟩

/-- Two trees have one shape, and their files hold the same but at stale locations. Permission bits
may differ, as long as it does not depend on them what can be opened. -/
structure Matches (refusals : Refusals) (stale : Location → Prop) (first second : FileTree) :
    Prop where
  shape : SameShape first second
  contents : ∀ location, ¬ stale location →
    second.contentsAt? location = first.contentsAt? location
  rights : ∀ location,
    SameRights refusals location (first.modeAt? location) (second.modeAt? location)

namespace Matches

variable {refusals : Refusals} {stale : Location → Prop} {first second : FileTree}
  {location : Location}

theorem mono {wider : Location → Prop} (matching : Matches refusals stale first second)
    (within : ∀ location, stale location → wider location) :
    Matches refusals wider first second :=
  ⟨matching.shape, fun location fresh =>
    matching.contents location fun isStale => fresh (within location isStale), matching.rights⟩

theorem symm (matching : Matches refusals stale first second) :
    Matches refusals stale second first :=
  ⟨matching.shape.symm, fun location fresh => (matching.contents location fresh).symm,
    fun location => ⟨(matching.rights location).read.symm, (matching.rights location).write.symm⟩⟩

/-- A file that can be written in one of two trees that match can be written in the other. -/
theorem writable (matching : Matches refusals stale first second)
    (writable : first.Writable refusals location) : second.Writable refusals location where
  free := (matching.shape.isDirectoryAt_eq location).trans writable.free
  granted := (matching.rights location).write.trans writable.granted

/-- Files that are there or made anew can be opened just as well in both trees. -/
theorem rights_modeAt (matching : Matches refusals stale first second) (location : Location) :
    SameRights refusals location (some (first.modeAt location))
      (some (second.modeAt location)) := by
  have both := matching.shape.isSome_modeAt?_eq location
  have rights := matching.rights location
  rw [modeAt_eq, modeAt_eq]
  generalize first.modeAt? location = before, second.modeAt? location = after at both rights ⊢
  rcases before with _ | mode
  · rcases after with _ | other
    · exact .refl _
    · cases both
  · rcases after with _ | other
    · cases both
    · exact rights

theorem setDirectory (matching : Matches refusals stale first second) (location : Location) :
    Matches refusals stale (first.set location .directory) (second.set location .directory) := by
  refine ⟨matching.shape.set location rfl, ?_, ?_⟩
  · intro other fresh
    rw [contentsAt?_setDirectory, contentsAt?_setDirectory, matching.contents other fresh]
  · intro other
    rw [modeAt?_setDirectory, modeAt?_setDirectory]
    split
    · exact .refl _
    · exact matching.rights other

/-- A file that is written is stale no longer. -/
theorem setFile (matching : Matches refusals stale first second) (proper : location ≠ [])
    (contents : Bytes) :
    Matches refusals (fun place => stale place ∧ place ≠ location)
      (first.set location (.file contents (first.modeAt location)))
      (second.set location (.file contents (second.modeAt location))) := by
  refine ⟨matching.shape.set location rfl, ?_, ?_⟩
  · intro place fresh
    rw [contentsAt?_set proper, contentsAt?_set proper]
    split
    · rfl
    · next there => exact matching.contents place fun isStale => fresh ⟨isStale, there⟩
  · intro place
    rw [modeAt?_set proper, modeAt?_set proper]
    split
    · next there =>
        subst there
        exact matching.rights_modeAt place
    · exact matching.rights place

theorem setContents (matching : Matches refusals stale first second) (location : Location)
    (contents : Bytes) :
    Matches refusals stale (first.setContents location contents)
      (second.setContents location contents) := by
  refine ⟨?_, ?_, ?_⟩
  · intro place
    rw [shapeAt_setContents, shapeAt_setContents]
    exact matching.shape place
  · intro place fresh
    rw [contentsAt?_setContents, contentsAt?_setContents]
    split
    · next there => rw [matching.contents location (there ▸ fresh)]
    · exact matching.contents place fresh
  · intro place
    rw [modeAt?_setContents, modeAt?_setContents]
    exact matching.rights place

theorem setModeAt (matching : Matches refusals stale first second) (location : Location)
    (mode : Nat) :
    Matches refusals stale (first.setModeAt location mode) (second.setModeAt location mode) := by
  refine ⟨?_, ?_, ?_⟩
  · intro place
    rw [shapeAt_setModeAt, shapeAt_setModeAt]
    exact matching.shape place
  · intro place fresh
    rw [contentsAt?_setModeAt, contentsAt?_setModeAt]
    exact matching.contents place fresh
  · intro place
    rw [modeAt?_setModeAt, modeAt?_setModeAt]
    split
    · rw [matching.shape.map_modeAt?_eq]
      exact .refl _
    · exact matching.rights place

theorem writeAt (matching : Matches refusals stale first second) (location : Location)
    (offset : Nat) (bytes : Bytes) :
    Matches refusals stale (first.writeAt location offset bytes)
      (second.writeAt location offset bytes) := by
  refine ⟨?_, ?_, ?_⟩
  · intro place
    rw [shapeAt_writeAt, shapeAt_writeAt]
    exact matching.shape place
  · intro place fresh
    rw [contentsAt?_writeAt, contentsAt?_writeAt]
    split
    · next there => rw [matching.contents location (there ▸ fresh)]
    · exact matching.contents place fresh
  · intro place
    rw [modeAt?_writeAt, modeAt?_writeAt]
    exact matching.rights place

theorem readAt_eq (matching : Matches refusals stale first second) (fresh : ¬ stale location) :
    second.readAt location = first.readAt location := by
  have contents := matching.contents location fresh
  have shape := matching.shape location
  unfold shapeAt at shape
  unfold contentsAt? at contents
  unfold readAt
  rcases found : first.get? location with _ | ⟨_, _⟩ | _ | _
  · rcases foundLater : second.get? location with _ | ⟨_, _⟩ | _ | _ <;>
      simp [found, foundLater] at shape ⊢
  · rcases foundLater : second.get? location with _ | ⟨_, _⟩ | _ | _ <;>
      simp [found, foundLater, Node.shape] at shape contents ⊢
    exact contents
  · rcases foundLater : second.get? location with _ | ⟨_, _⟩ | _ | _ <;>
      simp [found, foundLater, Node.shape] at shape ⊢
  · rcases foundLater : second.get? location with _ | ⟨_, _⟩ | _ | _ <;>
      simp [found, foundLater, Node.shape] at shape ⊢

/-- What a path names can be read in both trees alike when nothing that it names is stale. -/
theorem read_eq (matching : Matches refusals stale first second) {here : Location} {path : Path}
    (fresh : ∀ location, first.locate here path = .ok location → ¬ stale location) :
    second.read here path = first.read here path := by
  unfold read
  rw [openForReading_none, openForReading_none, matching.shape.locate_eq]
  rcases located : first.locate here path with error | location
  · rfl
  · exact matching.readAt_eq (fresh location located)

/-- What a path names can be opened in both trees alike. -/
theorem openForReading_eq (matching : Matches refusals stale first second) (here : Location)
    (path : Path) :
    second.openForReading here path refusals = first.openForReading here path refusals := by
  unfold openForReading
  rw [matching.shape.locate_eq]
  rcases first.locate here path with error | location
  · rfl
  · simp only [bind, Except.bind, (matching.rights location).read]

end Matches

end FileTree

/-! ## Actions -/

namespace TreeAction

open FileTree (Matches)

variable {α β : Type} {refusals : Refusals} {stale : Location → Prop}

/-- On trees that match, an action comes to the same result and leaves trees that match. -/
def Steady (refusals : Refusals) (stale : Location → Prop) (action : TreeAction α) : Prop :=
  ∀ first second : FileTree, first.Matches refusals stale second →
    (action.runOn second).1 = (action.runOn first).1 ∧
      (action.runOn first).2.Matches refusals stale (action.runOn second).2

namespace Steady

theorem again {action : TreeAction α} (steady : Steady refusals stale action)
    {first second left : FileTree} {result : Except IoError α}
    (matching : first.Matches refusals stale second) (run : action.runOn first = (result, left)) :
    ∃ leftAgain, action.runOn second = (result, leftAgain) ∧
      left.Matches refusals stale leftAgain := by
  have agree := steady first second matching
  rcases runAgain : action.runOn second with ⟨resultAgain, leftAgain⟩
  rw [run, runAgain] at agree
  cases agree.1
  exact ⟨leftAgain, rfl, agree.2⟩

theorem pure (value : α) : Steady refusals stale (Pure.pure value : TreeAction α) :=
  fun _ _ matching => ⟨rfl, matching⟩

theorem throw (error : IoError) : Steady refusals stale (MonadExcept.throw error : TreeAction α) :=
  fun _ _ matching => ⟨rfl, matching⟩

theorem ofExcept (result : Except IoError α) :
    Steady refusals stale (TreeAction.ofExcept result) :=
  fun _ _ matching => ⟨rfl, matching⟩

theorem look {question : FileTree → Except IoError α}
    (same : ∀ first second : FileTree, first.Matches refusals stale second →
      question second = question first) : Steady refusals stale (TreeAction.look question) :=
  fun first second matching => ⟨same first second matching, matching⟩

theorem change {f : FileTree → FileTree}
    (kept : ∀ first second : FileTree, first.Matches refusals stale second →
      (f first).Matches refusals stale (f second)) : Steady refusals stale (TreeAction.change f) :=
  fun first second matching => ⟨rfl, kept first second matching⟩

theorem bind {action : TreeAction α} {next : α → TreeAction β}
    (earlier : Steady refusals stale action) (later : ∀ value, Steady refusals stale (next value)) :
    Steady refusals stale (action >>= next) := by
  intro first second matching
  rcases run : action.runOn first with ⟨error | value, left⟩
  · rcases earlier.again matching run with ⟨leftAgain, runAgain, kept⟩
    rw [runOn_bind, runOn_bind, run, runAgain]
    exact ⟨rfl, kept⟩
  · rcases earlier.again matching run with ⟨leftAgain, runAgain, kept⟩
    rw [runOn_bind, runOn_bind, run, runAgain]
    exact later value left leftAgain kept

end Steady

end TreeAction

namespace FileTree

variable {refusals : Refusals} {stale : Location → Prop}

theorem makeDirectory_steady (here : Location) (path : Path) :
    TreeAction.Steady refusals stale (makeDirectory here path refusals) :=
  .bind (.look fun _ _ matching => matching.shape.newDirectoryAt_eq here path) fun location =>
    .bind (.ofExcept _) fun _ => .change fun _ _ matching => matching.setDirectory location

/-- What remains to be done for a directory when trying to make it has ended: a failure does
not count if the directory is there. -/
def orDirectory (here : Location) (path : Path) :
    Except IoError Unit × FileTree → Except IoError Unit × FileTree
  | (.ok (), made) => (.ok (), made)
  | (.error error, kept) =>
    if kept.isDirectory here path then (.ok (), kept) else (.error error, kept)

theorem makeAlong_of_absent {here : Location} {path : Path} {ancestors : List Path}
    (named : path.text ≠ "") {tree kept : FileTree}
    (failed : (makeDirectory here path refusals).runOn tree = (.error (.system .notFound), kept)) :
    (makeAlong here refusals (path :: ancestors)).runOn tree =
      match (makeAlong here refusals ancestors).runOn tree with
      | (.error error, left) => (.error error, left)
      | (.ok (), left) =>
        orDirectory here path ((makeDirectory here path refusals).runOn left) := by
  rw [makeAlong_cons named, failed]
  rcases (makeAlong here refusals ancestors).runOn tree with ⟨error | ⟨⟩, left⟩
  · rfl
  · simp only
    rcases (makeDirectory here path refusals).runOn left with ⟨error | ⟨⟩, made⟩ <;> rfl

theorem makeAlong_of_present {here : Location} {path : Path} {ancestors : List Path}
    (named : path.text ≠ "") {tree kept : FileTree} {result : Except IoError Unit}
    (tried : (makeDirectory here path refusals).runOn tree = (result, kept))
    (present : result ≠ .error (.system .notFound)) :
    (makeAlong here refusals (path :: ancestors)).runOn tree =
      orDirectory here path (result, kept) := by
  rw [makeAlong_cons named, tried]
  rcases result with error | ⟨⟩
  · split
    · next tried => cases tried
    · next tried =>
        cases tried
        exact absurd rfl present
    · next tried =>
        cases tried
        rfl
  · rfl

theorem orDirectory_steady {here : Location} {path : Path} {result : Except IoError Unit}
    {first second : FileTree} (matching : first.Matches refusals stale second) :
    (orDirectory here path (result, second)).1 = (orDirectory here path (result, first)).1 ∧
      (orDirectory here path (result, first)).2.Matches refusals stale
        (orDirectory here path (result, second)).2 := by
  rcases result with error | ⟨⟩
  · simp only [orDirectory, matching.shape.isDirectory_eq]
    split
    · exact ⟨rfl, matching⟩
    · exact ⟨rfl, matching⟩
  · exact ⟨rfl, matching⟩

theorem makeAlong_steady (here : Location) (ancestors : List Path) :
    TreeAction.Steady refusals stale (makeAlong here refusals ancestors) := by
  induction ancestors with
  | nil => exact .throw _
  | cons path rest ih =>
      by_cases named : path.text = ""
      · rw [makeAlong, if_pos named]
        exact .pure ()
      have single : TreeAction.Steady refusals stale (makeDirectory here path refusals) :=
        makeDirectory_steady here path
      intro first second matching
      rcases tried : (makeDirectory here path refusals).runOn first with ⟨result, kept⟩
      rcases single.again matching tried with ⟨keptAgain, triedAgain, keeps⟩
      by_cases absent : result = .error (.system .notFound)
      · subst absent
        rw [makeAlong_of_absent named tried, makeAlong_of_absent named triedAgain]
        rcases run : (makeAlong here refusals rest).runOn first with ⟨error | ⟨⟩, left⟩
        · rcases ih.again matching run with ⟨leftAgain, runAgain, above⟩
          rw [runAgain]
          exact ⟨rfl, above⟩
        · rcases ih.again matching run with ⟨leftAgain, runAgain, above⟩
          rcases made : (makeDirectory here path refusals).runOn left with ⟨outcome, last⟩
          rcases single.again above made with ⟨lastAgain, madeAgain, makes⟩
          simp only [runAgain, made, madeAgain]
          exact orDirectory_steady makes
      · rw [makeAlong_of_present named tried absent, makeAlong_of_present named triedAgain absent]
        exact orDirectory_steady keeps

theorem makeDirectories_steady (here : Location) (path : Path) :
    TreeAction.Steady refusals stale (makeDirectories here path refusals) :=
  makeAlong_steady here path.ancestors

theorem setMode_steady (here : Location) (path : Path) (mode : Nat) :
    TreeAction.Steady refusals stale (setMode here path mode refusals) :=
  .bind (.look fun _ _ matching => matching.shape.locate_eq here path) fun location =>
    .bind (.ofExcept _) fun _ => .change fun _ _ matching => matching.setModeAt location mode

theorem openAt_steady (location : Location) :
    TreeAction.Steady refusals stale (openAt location refusals) := by
  intro first second matching
  rcases openAt_run first refusals location with ⟨error, failed⟩ | writable
  · rcases openAt_run second refusals location with ⟨other, failedAgain⟩ | writable
    · refine ⟨?_, by rwa [failed, failedAgain]⟩
      simp only [openAt, TreeAction.runOn, matching.shape.isDirectoryAt_eq,
        (matching.rights location).write]
      split
      · rfl
      · split <;> rfl
    · cases (openAt_of_writable (matching.symm.writable writable)).symm.trans failed
  · have proper : location ≠ [] := by
      rintro rfl
      cases writable.free
    rw [openAt_of_writable writable, openAt_of_writable (matching.writable writable)]
    exact ⟨rfl, (matching.setFile proper []).mono fun _ isStale => isStale.1⟩

theorem writeFile_steady (here : Location) (path : Path) (contents : Bytes) :
    TreeAction.Steady refusals stale (writeFile here path contents refusals) := by
  have opened : TreeAction.Steady refusals stale (openForWriting here path refusals) :=
    .bind (.look fun _ _ matching => matching.shape.locateTarget_eq here path) fun location =>
      .bind (openAt_steady location) fun _ => .pure location
  have filled (location : Location) :
      TreeAction.Steady refusals stale (fillAt location contents refusals) :=
    .bind (.change fun _ _ matching => matching.setContents location _) fun _ => .ofExcept _
  exact .bind opened filled

end FileTree

end BridgeSetup
