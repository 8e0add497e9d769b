import BridgeSetup.Proofs.FileTree.Directories
import BridgeSetup.Proofs.Run.Tasks
import BridgeSetup.Setup.Flow

/-!
# What the steps of a setup run may change

Three steps write files: the one that provides the default configuration, the one that takes
the distribution out of the Java module, and the one that unpacks the distribution. Each
changes nothing but places on the ways of the paths that it writes to, whatever comes of it.
-/

namespace BridgeSetup

open FileTree (Touches)

/-! ## Actions -/

/-- An action that opens a file and then writes to it changes only places on its way. -/
theorem FileTree.openForWriting_bind_touches {α : Type} {refusals : Refusals} {here : Location}
    {path : Path} {next : Location → TreeAction α}
    (writes : ∀ location tree,
      Touches (location = ·) tree ((next location).runOn tree).2)
    (tree : FileTree) :
    Touches (tree.OnWay here path) tree
      ((FileTree.openForWriting here path refusals >>= next).runOn tree).2 := by
  rw [TreeAction.runOn_bind]
  rcases FileTree.openForWriting_run tree refusals here path with
    ⟨error, failed⟩ | ⟨location, targets, writable⟩
  · rw [failed]
    exact .refl tree
  · rw [targets.openForWriting writable]
    have opened : Touches (tree.OnWay here path) tree
        (tree.set location (.file [] (tree.modeAt location))) :=
      .set targets.onWay (targets.fits writable.free [] _)
    refine opened.trans ((writes location _).mono ?_)
    rintro other rfl
    exact targets.onWay

theorem FileTree.fillAt_touches (refusals : Refusals) (location : Location) (data : Bytes)
    (tree : FileTree) :
    Touches (location = ·) tree ((FileTree.fillAt location data refusals).runOn tree).2 := by
  rw [FileTree.fillAt, TreeAction.runOn_bind, TreeAction.runOn_change]
  exact .setContents rfl _

theorem FileTree.writeFile_touches (refusals : Refusals) (here : Location) (path : Path)
    (contents : Bytes) (tree : FileTree) :
    Touches (tree.OnWay here path) tree
      ((FileTree.writeFile here path contents refusals).runOn tree).2 :=
  openForWriting_bind_touches (fun location _ => fillAt_touches refusals location contents _) tree

theorem FileTree.setMode_touches (refusals : Refusals) (here : Location) (path : Path)
    (mode : Nat) (tree : FileTree) :
    Touches (tree.OnWay here path) tree
      ((FileTree.setMode here path mode refusals).runOn tree).2 := by
  rw [FileTree.setMode, TreeAction.runOn_bind, TreeAction.runOn_look]
  rcases located : tree.locate here path with error | location
  · exact .refl tree
  simp only [TreeAction.runOn_bind, TreeAction.runOn_ofExcept]
  rcases refused : Refusals.check (refusals.setMode location) with error | _
  · exact .refl tree
  · exact .setModeAt (onWay_of_locate located) mode

namespace Unpack

variable (env : Environment) (tree : FileTree)

theorem makeRoom_touches (path : Path) :
    Touches (tree.OnWay env.workingDirectory path) tree ((makeRoom env path).runOn tree).2 := by
  unfold makeRoom
  split
  · next directory isParent =>
      refine FileTree.makeAlong_touches ?_ tree
      intro ancestor member
      exact (Path.isAncestor_of_mem_ancestors member).trans (Path.isAncestor_of_parent isParent)
  · exact .refl tree

theorem writeMember_touches (archive : Location) (entry : Zip.Entry) (start : Nat)
    (path : Path) :
    Touches (tree.OnWay env.workingDirectory path) tree
      ((writeMember env archive entry start path).runOn tree).2 := by
  have room := makeRoom_touches env tree path
  rw [writeMember, TreeAction.runOn_bind]
  split
  · next left run =>
      rw [run] at room
      refine room.trans ((FileTree.openForWriting_bind_touches ?_ left).onWay_grow room.grows)
      intro location opened
      rw [TreeAction.runOn_bind, TreeAction.runOn_look]
      have filled := FileTree.fillAt_touches env.refusals location
        (entry.deliver (imageAt opened archive) start).bytes opened
      simp only [TreeAction.runOn_bind]
      split
      · next done after run =>
          rw [run] at filled
          split
          · exact filled
          · exact filled
      · next error after run =>
          rw [run] at filled
          exact filled
  · next error left run =>
      rw [run] at room
      exact room

end Unpack

/-! ## Steps -/

section Steps

variable {ε : Type} {env : Environment} {start : FileTree} {paths : Path → Prop}

theorem DefaultConfig.write_along {wrap : IoError → ε} {path : Path} (named : paths path)
    (home : Option String) (force : Bool) :
    Task.Keeps (Along env start paths) (DefaultConfig.write env wrap path home force) := by
  unfold DefaultConfig.write
  have written : Task.Keeps (Along env start paths)
      (Task.onFiles wrap (FileTree.writeFile env.workingDirectory path
        (Bytes.ofString (DefaultConfig.render home)) env.refusals)) :=
    Along.onFiles wrap named (FileTree.writeFile_touches env.refusals env.workingDirectory path _)
  refine .bind Along.chains (.look Along.chains _) ?_
  intro there
  split
  · exact .pure Along.chains false
  · exact .bind Along.chains written fun _ => .pure Along.chains true

namespace Unpack

/-- Unpacking an archive that is there and has to be unpacked. -/
def unpackListed (env : Environment) (archive destination : Path) : Task SetupError Outcome := do
  Task.say env .info ("unzipping '" ++ archive.text ++ "'")
  let opened ← openArchive env (.unpack archive) archive
  let count ← unpackEntries env (.unpack archive) opened.location destination opened.entries
  Task.say env .debug
    ("unpacked " ++ toString count ++ " files into '" ++ destination.text ++ "'")
  return .unpacked count

theorem unpackArchive_run (env : Environment) (archive marker destination : Path)
    (force : Bool) (session : Session) :
    (unpackArchive env archive marker destination force).runOn session =
      if isNeeded env session.files marker force then
        if session.files.pathExists env.workingDirectory archive then
          (unpackListed env archive destination).runOn session
        else (.error (.missingArchive archive), session)
      else
        (.ok .alreadyUnpacked, session.record env
          ⟨.debug, "'" ++ marker.text ++ "' exists, binary distribution already unpacked"⟩) := by
  rcases needed : isNeeded env session.files marker force with _ | _
  · simp only [unpackArchive, Task.runOn_bind, Task.runOn_look, needed]
    rfl
  · rcases there : session.files.pathExists env.workingDirectory archive with _ | _
    · simp only [unpackArchive, Task.runOn_bind, Task.runOn_look, needed, there, Bool.not_true,
        Bool.not_false, Bool.false_eq_true, ↓reduceIte, Task.runOn_throw]
    · simp only [unpackArchive, unpackListed, Task.runOn_bind, Task.runOn_look, needed, there,
        Bool.not_true, Bool.false_eq_true, ↓reduceIte]

/-- What has to be unpacked later had to be unpacked before, because nothing is taken away. -/
theorem isNeeded_of_grows {earlier later : FileTree} {marker : Path} {force : Bool}
    (grows : earlier.Grows later) (needed : isNeeded env later marker force = true) :
    isNeeded env earlier marker force = true := by
  unfold isNeeded at needed ⊢
  rcases there : earlier.pathExists env.workingDirectory marker with _ | _
  · simp
  · simpa [grows.pathExists there] using needed

/-- An archive that has been dealt with was there, or had been unpacked before. -/
theorem unpackArchive_eq_ok {archive marker destination : Path} {force : Bool}
    {session left : Session} {outcome : Outcome}
    (run : (unpackArchive env archive marker destination force).runOn session =
      (.ok outcome, left)) :
    (isNeeded env session.files marker force = true ∧
      session.files.pathExists env.workingDirectory archive = true ∧
      (unpackListed env archive destination).runOn session = (.ok outcome, left)) ∨
    (isNeeded env session.files marker force = false ∧ outcome = .alreadyUnpacked ∧
      session.files.Alike env.LogsAt left.files) := by
  rw [unpackArchive_run] at run
  split at run
  · next needed =>
      split at run
      · next there => exact Or.inl ⟨needed, there, run⟩
      · cases run
  · next unpacked =>
      cases run
      exact Or.inr ⟨by simpa using unpacked, rfl, session.record_alike env _⟩

theorem openArchive_along (wrap : ZipError → SetupError) (archive : Path) :
    Task.Keeps (Along env start paths) (openArchive env wrap archive) := by
  unfold openArchive
  refine .bind Along.chains (.look Along.chains _) ?_
  intro located
  refine .bind Along.chains (.ofExcept Along.chains _) ?_
  intro location
  refine .bind Along.chains (.look Along.chains _) ?_
  intro contents
  refine .bind Along.chains (.ofExcept Along.chains _) ?_
  intro bytes
  refine .bind Along.chains (.ofExcept Along.chains _) ?_
  intro entries
  exact .pure Along.chains _

/-- Handling a member changes only what lies on the way of its path, if its name is safe. -/
theorem unpackEntry_along {wrap : ZipError → SetupError} {archive : Location}
    {destination : Path} {entry : Zip.Entry}
    (named : ∀ relative, entry.safePath? = some relative → paths (destination.join relative)) :
    Task.Keeps (Along env start paths) (unpackEntry env wrap archive destination entry) := by
  unfold unpackEntry
  refine .bind Along.chains (.look Along.chains _) ?_
  intro opened
  refine .bind Along.chains (.ofExcept Along.chains _) ?_
  intro place
  split
  · exact .bind Along.chains (.say _ _) fun _ => .pure Along.chains false
  next relative safe =>
  have allowed := named relative safe
  split
  · have made : Task.Keeps (Along env start paths)
        (Task.onFiles SetupError.io
          (FileTree.makeDirectories env.workingDirectory (destination.join relative)
            env.refusals)) :=
      .onFiles _ allowed (FileTree.makeDirectories_touches env.refusals env.workingDirectory _)
    exact .bind Along.chains made fun _ => .pure Along.chains false
  · have written : Task.Keeps (Along env start paths)
        (Task.onFiles SetupError.io
          (writeMember env archive entry place (destination.join relative))) :=
      Along.onFiles _ allowed fun tree => writeMember_touches env tree archive entry place _
    refine .bind Along.chains written ?_
    intro done
    split
    · next mode recorded =>
        have moded : Task.Keeps (Along env start paths)
            (Task.onFiles SetupError.io (FileTree.setMode env.workingDirectory
              (destination.join relative) (mode &&& permissionMask) env.refusals)) :=
          .onFiles _ allowed (FileTree.setMode_touches env.refusals env.workingDirectory _ _)
        exact .bind Along.chains moded fun _ => .pure Along.chains true
    · exact .pure Along.chains true

theorem unpackEntries_along {wrap : ZipError → SetupError} {archive : Location}
    {destination : Path} {entries : List Zip.Entry}
    (named : ∀ entry ∈ entries, ∀ relative, entry.safePath? = some relative →
      paths (destination.join relative)) :
    Task.Keeps (Along env start paths) (unpackEntries env wrap archive destination entries) := by
  induction entries with
  | nil => exact .pure Along.chains 0
  | cons entry rest ih =>
      have first : Task.Keeps (Along env start paths)
          (unpackEntry env wrap archive destination entry) :=
        unpackEntry_along (named entry List.mem_cons_self)
      have others := ih fun other member => named other (List.mem_cons_of_mem entry member)
      refine .bind Along.chains first ?_
      intro written
      refine .bind Along.chains others ?_
      intro count
      exact .pure Along.chains _

theorem safePath?_eq_some_iff {entry : Zip.Entry} {relative : Path} :
    entry.safePath? = some relative ↔
      Zip.isSafeName entry.name = true ∧ relative = ⟨entry.name⟩ := by
  unfold Zip.Entry.safePath?
  split
  · next safe => simp [safe, eq_comm]
  · next unsafeName => simp [unsafeName]

theorem eq_of_safePath? {entry : Zip.Entry} {relative : Path}
    (safe : entry.safePath? = some relative) : relative = ⟨entry.name⟩ :=
  (safePath?_eq_some_iff.mp safe).2

theorem isSafeName_of_safePath? {entry : Zip.Entry} {relative : Path}
    (safe : entry.safePath? = some relative) : Zip.isSafeName relative.text = true := by
  rw [eq_of_safePath? safe]
  exact (safePath?_eq_some_iff.mp safe).1

variable {destination : Path}
  (named : ∀ relative : Path, Zip.isSafeName relative.text = true →
    paths (destination.join relative))

include named

theorem unpackListed_along (archive : Path) :
    Task.Keeps (Along env start paths) (unpackListed env archive destination) := by
  unfold unpackListed
  refine .bind Along.chains (.say _ _) ?_
  intro said
  refine .bind Along.chains (openArchive_along _ archive) ?_
  intro opened
  have unpacked : Task.Keeps (Along env start paths)
      (unpackEntries env (.unpack archive) opened.location destination opened.entries) :=
    unpackEntries_along fun _ _ relative safe => named relative (isSafeName_of_safePath? safe)
  refine .bind Along.chains unpacked ?_
  intro count
  exact .bind Along.chains (.say _ _) fun _ => .pure Along.chains _

theorem unpackArchive_along (archive marker : Path) (force : Bool) :
    Task.Keeps (Along env start paths)
      (unpackArchive env archive marker destination force) := by
  intro session
  rw [unpackArchive_run]
  split
  · split
    · exact unpackListed_along named archive session
    · exact Along.chains.refl session
  · exact Along.say (ε := SetupError) .debug _ session

theorem extractMember_along (archive : Path) (member : String) :
    Task.Keeps (Along env start paths) (extractMember env archive member destination) := by
  unfold extractMember
  refine .bind Along.chains (openArchive_along _ archive) ?_
  intro opened
  split
  · exact .throw Along.chains _
  next entry found =>
  refine .bind Along.chains (.look Along.chains _) ?_
  intro opening
  refine .bind Along.chains (.ofExcept Along.chains _) ?_
  intro place
  split
  · exact .throw Along.chains _
  next relative safe =>
  have allowed := named relative (isSafeName_of_safePath? safe)
  have written : Task.Keeps (Along env start paths)
      (Task.onFiles SetupError.io
        (writeMember env opened.location entry place (destination.join relative))) :=
    Along.onFiles _ allowed fun tree => writeMember_touches env tree _ entry place _
  exact .bind Along.chains written fun _ => .pure Along.chains _

theorem locateArchive_along (javaModule : Path) (distribution : Distribution) :
    Task.Keeps (Along env start paths)
      (locateArchive env javaModule distribution destination) := by
  unfold locateArchive
  refine .bind Along.chains (.look Along.chains _) ?_
  intro isFile
  split
  · exact .bind Along.chains (.say _ _) fun _ => extractMember_along named _ _
  · exact .look Along.chains _

end Unpack

end Steps

end BridgeSetup
