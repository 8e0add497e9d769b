import BridgeSetup.Proofs.Setup.Unpacking
import BridgeSetup.Proofs.Zip.Members

/-!
# What the making of a file leaves

A file is made in three steps: the missing directories on its way are made, it is opened, and its
data are written. When this stops early, the directories that have been made stay, and so does the
file once it has been opened, with the data that were written by then. `Leaves` says for each
location what may be found there afterwards.

A file that is opened is emptied. If it is the archive from which its data are to come, there is
nothing left to decode, so what is written is a beginning of the data also then.
-/

namespace BridgeSetup

namespace FileTree

/-- What is found at a location after something was to be made at a path: a directory, or a file
with the given data. -/
inductive Leaves (here : Location) (path : Path) (data : Option Bytes) (before after : FileTree)
    (location : Location) : Prop where
  /-- Nothing has changed. -/
  | same (same : after.get? location = before.get? location)
  /-- A directory has been made on the way of the path, where nothing was. -/
  | directory (onWay : before.OnWay here path location) (absent : before.get? location = none)
      (made : after.get? location = some .directory)
  /-- The file has been opened, which leaves its permission bits, and some of its data have been
  written. -/
  | file {whole part} (isFile : data = some whole) (targets : after.Targets here path location)
      (begins : part <+: whole)
      (opened : after.get? location = some (.file part (before.modeAt location)))

section Directories

variable {here location place : Location} {path : Path} {data : Option Bytes}
  {before after room : FileTree}

theorem Leaves.of_lays (lays : Lays (fun _ => False) .blank before after)
    (touches : Touches (before.OnWay here path) before after) (location : Location) :
    Leaves here path data before after location := by
  rcases lays.node location id with kept | ⟨_, absent, fresh⟩
  · apply Leaves.same
    rw [kept, Overlay.nodeAt_of_none rfl]
  · by_cases onWay : before.OnWay here path location
    · exact .directory onWay absent fresh
    · exact .same (touches.same location onWay)

theorem makeDirectories_leaves (refusals : Refusals) (here : Location) (path : Path)
    (data : Option Bytes) (tree : FileTree) (location : Location) :
    Leaves here path data tree ((makeDirectories here path refusals).runOn tree).2 location :=
  .of_lays (makeDirectories_lays _ refusals here path tree)
    (makeDirectories_touches refusals here path tree) location

/-- Where there is no directory, making directories has changed nothing. -/
theorem Leaves.get?_of_free (leaves : Leaves here path none before room location)
    (free : room.isDirectoryAt location = false) : room.get? location = before.get? location := by
  cases leaves with
  | same same => exact same
  | directory _ _ made => simp [isDirectoryAt, made] at free
  | file isFile _ _ _ => cases isFile

/-- A file that is put somewhere leaves other locations as the directories have left them. -/
theorem Leaves.set (leaves : Leaves here path none before room location)
    (different : location ≠ place) (node : Node) (data : Option Bytes) :
    Leaves here path data before (room.set place node) location := by
  have kept := get?_set_of_ne room different node
  cases leaves with
  | same same =>
      apply Leaves.same
      rw [kept, same]
  | directory onWay absent made =>
      apply Leaves.directory onWay absent
      rw [kept, made]
  | file isFile _ _ _ => cases isFile

/-- What is left does not depend on what the log held. -/
theorem Leaves.of_alike {apart : Location → Prop} {start : FileTree}
    (alike : Alike apart start before) (elsewhere : ¬ apart location)
    (leaves : Leaves here path data before after location) :
    Leaves here path data start after location := by
  have held := alike.same location elsewhere
  cases leaves with
  | same same =>
      apply Leaves.same
      rw [same, held]
  | directory onWay absent made =>
      apply Leaves.directory (alike.grows.onWay_iff.mp onWay) _ made
      rw [← held, absent]
  | file isFile targets begins opened =>
      apply Leaves.file isFile targets begins
      rw [opened, modeAt, modeAt, held]

end Directories

end FileTree

/-! ## Members -/

namespace Unpack

open FileTree (Leaves)

variable {env : Environment} {archive location : Location} {entry : Zip.Entry} {start : Nat}
  {path : Path} {tree room left : FileTree}

theorem makeRoom_leaves (env : Environment) (path : Path) (tree : FileTree) (data : Option Bytes)
    (location : Location) :
    Leaves env.workingDirectory path data tree ((makeRoom env path).runOn tree).2 location :=
  .of_lays (makeRoom_lays _ env path tree) (makeRoom_touches env tree path) location

/-- While a file is open for writing, a beginning of what the archive held before is read. -/
theorem delivered_isPrefix (roomy : (makeRoom env path).runOn tree = (.ok (), room))
    (proper : location ≠ []) :
    (delivered archive entry start room location).bytes <+:
      entry.decoded (imageAt tree archive) start := by
  by_cases itself : archive = location
  · subst itself
    have emptied : imageAt (room.set archive (.file [] (room.modeAt archive))) archive = #[] := by
      simp [imageAt, FileTree.contentsAt?, FileTree.get?_set_self room proper]
    rw [delivered, emptied, Zip.Entry.deliver_of_emptied]
    exact List.nil_prefix
  · rw [delivered_eq roomy itself]
    exact Zip.Entry.deliver_isPrefix _ entry start

/-- Whether a member has been written or not, directories may have been made, and the file may have
been opened and some of the data written. -/
theorem writeMember_leaves {result : Except IoError Unit}
    (run : (writeMember env archive entry start path).runOn tree = (result, left))
    (location : Location) :
    Leaves env.workingDirectory path (some (entry.decoded (imageAt tree archive) start)) tree left
      location := by
  have rooms := makeRoom_leaves env path tree none
  have bare := makeRoom_leaves env path tree (some (entry.decoded (imageAt tree archive) start))
    location
  rcases roomy : (makeRoom env path).runOn tree with ⟨error | ⟨⟩, room⟩
  · rw [writeMember, TreeAction.runOn_bind, roomy] at run
    cases run
    rwa [roomy] at bare
  rw [roomy] at rooms bare
  rcases FileTree.openForWriting_run room env.refusals env.workingDirectory path with
    ⟨error, failed⟩ | ⟨place, targets, writable⟩
  · have stopped : (writeMember env archive entry start path).runOn tree =
        (.error error, room) := by
      simp only [writeMember, TreeAction.runOn_bind, roomy, failed]
    cases stopped.symm.trans run
    exact bare
  · rw [writeMember_run roomy targets writable, received, Prod.mk.injEq] at run
    rcases run with ⟨_, rfl⟩
    by_cases itself : location = place
    · subst itself
      have part := env.refusals.admitted_isPrefix location
        (delivered archive entry start room location).bytes
      have begins := part.trans (delivered_isPrefix roomy targets.proper)
      refine .file rfl ?_ begins ?_
      · exact targets.grow (FileTree.grows_set (targets.fits writable.free _ _))
      · rw [FileTree.get?_set_self room targets.proper, FileTree.modeAt,
          (rooms location).get?_of_free writable.free, FileTree.modeAt]
    · exact (rooms location).set itself _ _

/-- When a member has been written, its file holds its data, unless it was written over the archive,
and only directories are new besides. -/
theorem writeMember_written
    (run : (writeMember env archive entry start path).runOn tree = (.ok (), left)) :
    ∃ location data, left.Targets env.workingDirectory path location ∧
      left.get? location = some (.file data (tree.modeAt location)) ∧
      (archive ≠ location → entry.deliver (imageAt tree archive) start = ⟨data, none⟩) ∧
      ∀ other, other ≠ location → Leaves env.workingDirectory path none tree left other := by
  rcases writeMember_ok run with ⟨room, location, roomy, targets, writable, _, sound, rfl⟩
  have rooms := makeRoom_leaves env path tree none
  rw [roomy] at rooms
  refine ⟨location, (delivered archive entry start room location).bytes, ?_, ?_, ?_, ?_⟩
  · exact targets.grow (FileTree.grows_set (targets.fits writable.free _ _))
  · rw [FileTree.get?_set_self room targets.proper, FileTree.modeAt,
      (rooms location).get?_of_free writable.free, FileTree.modeAt]
  · intro elsewhere
    rw [← delivered_eq roomy elsewhere, ← sound]
  · intro other different
    exact (rooms other).set different _ _

end Unpack

end BridgeSetup
