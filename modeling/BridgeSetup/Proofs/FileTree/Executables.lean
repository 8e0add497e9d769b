import BridgeSetup.Proofs.FileTree.Shapes
import BridgeSetup.Proofs.Run.Tasks

/-!
# Files that may be executed

Whether a path names a file that may be executed depends on where it leads and on the permission
bits there, and not on what any file holds (`SamePermissions`). So it makes no difference that
the log is written in the meantime, also when it goes to a file.
-/

namespace BridgeSetup

/-- A node, whatever a file holds. -/
def Node.emptied : Node → Node
  | .file _ mode => .file [] mode
  | .directory => .directory
  | .link target => .link target

namespace FileTree

/-- Two trees are the same, whatever their files hold. -/
def SamePermissions (first second : FileTree) : Prop :=
  ∀ location, (second.get? location).map Node.emptied = (first.get? location).map Node.emptied

namespace SamePermissions

variable {first second third : FileTree}

theorem refl (tree : FileTree) : SamePermissions tree tree :=
  fun _ => rfl

theorem trans (same : SamePermissions first second) (further : SamePermissions second third) :
    SamePermissions first third :=
  fun location => (further location).trans (same location)

theorem sameShape (same : SamePermissions first second) : SameShape first second := by
  have shape (node : Option Node) :
      node.map Node.shape = (node.map Node.emptied).map Node.shape := by
    rcases node with _ | ⟨_, _⟩ | _ | _ <;> rfl
  intro location
  rw [shapeAt, shapeAt, shape, same location, ← shape]

theorem file_iff (same : SamePermissions first second) {location : Location} {mode : Nat} :
    (∃ contents, second.get? location = some (.file contents mode)) ↔
      ∃ contents, first.get? location = some (.file contents mode) := by
  have emptied (node : Option Node) : (∃ contents, node = some (.file contents mode)) ↔
      node.map Node.emptied = some (.file [] mode) := by
    rcases node with _ | ⟨_, _⟩ | _ | _ <;> simp [Node.emptied]
  rw [emptied, emptied, same location]

end SamePermissions

variable {tree : FileTree} {here : Location} {path : Path}

/-- A path names a regular file that may be executed. -/
theorem executableAt_eq_ok_iff {location : Location} :
    tree.executableAt here path = .ok location ↔
      tree.locate here path = .ok location ∧
        ∃ mode, (∃ contents, tree.get? location = some (.file contents mode)) ∧
          isExecutableMode mode = true := by
  unfold executableAt
  rcases tree.locate here path with error | place
  · simp [bind, Except.bind]
  · simp only [bind, Except.bind, Except.ok.injEq]
    constructor
    · intro taken
      split at taken
      · next contents mode found =>
          split at taken
          · next executable =>
              cases taken
              exact ⟨rfl, mode, ⟨contents, found⟩, executable⟩
          · cases taken
      · cases taken
    · rintro ⟨rfl, mode, ⟨contents, found⟩, executable⟩
      simp [found, executable]

theorem isExecutable_iff :
    tree.isExecutable here path = true ↔
      ∃ location, tree.executableAt here path = .ok location := by
  simp only [executableAt_eq_ok_iff, isExecutable, find?]
  rcases tree.locate here path with error | location
  · simp
  · rcases found : tree.get? location with _ | ⟨contents, mode⟩ | _ | _ <;> simp [found]

theorem isFile_of_isExecutable (executable : tree.isExecutable here path = true) :
    tree.isFile here path = true := by
  rcases isExecutable_iff.mp executable with ⟨location, at_⟩
  rcases executableAt_eq_ok_iff.mp at_ with ⟨located, mode, ⟨contents, found⟩, _⟩
  exact isFile_iff.mpr ⟨location, contents, mode, located, found⟩

/-- A path leads to a regular file at this location. -/
def NamesFile (tree : FileTree) (here : Location) (path : Path) (location : Location) : Prop :=
  tree.locate here path = .ok location ∧
    ∃ mode contents, tree.get? location = some (.file contents mode)

theorem SamePermissions.namesFile {first second : FileTree} (same : SamePermissions first second)
    {location : Location} (named : first.NamesFile here path location) :
    second.NamesFile here path location := by
  rcases named with ⟨located, mode, file⟩
  exact ⟨same.sameShape.locate_eq here path ▸ located, mode, same.file_iff.mpr file⟩

theorem SamePermissions.executableAt_iff {first second : FileTree}
    (same : SamePermissions first second) {location : Location} :
    second.executableAt here path = .ok location ↔ first.executableAt here path = .ok location := by
  simp only [executableAt_eq_ok_iff, same.sameShape.locate_eq, same.file_iff]

theorem SamePermissions.isExecutable_eq {first second : FileTree}
    (same : SamePermissions first second) (here : Location) (path : Path) :
    second.isExecutable here path = first.isExecutable here path := by
  rw [Bool.eq_iff_iff, isExecutable_iff, isExecutable_iff]
  simp only [same.executableAt_iff]

theorem samePermissions_setContents (tree : FileTree) (location : Location) (contents : Bytes) :
    SamePermissions tree (tree.setContents location contents) := by
  unfold setContents
  split
  · next old mode found =>
      have proper : location ≠ [] := by
        rintro rfl
        simp at found
      intro other
      by_cases same : other = location
      · subst same
        simp [get?_set proper, found, Node.emptied]
      · simp [get?_set proper, same]
  · exact .refl tree

theorem samePermissions_writeAt (tree : FileTree) (location : Location) (offset : Nat)
    (bytes : Bytes) : SamePermissions tree (tree.writeAt location offset bytes) := by
  unfold writeAt
  split
  · exact samePermissions_setContents tree location _
  · exact .refl tree

end FileTree

theorem Session.record_samePermissions (env : Environment) (session : Session) (entry : Entry) :
    session.files.SamePermissions (session.record env entry).files := by
  unfold record
  split
  · rcases env.logFile with _ | logFile
    · exact .refl session.files
    · exact FileTree.samePermissions_writeAt session.files logFile.file _ _
  · exact .refl session.files

end BridgeSetup
