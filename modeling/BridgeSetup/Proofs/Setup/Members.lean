import BridgeSetup.Proofs.Setup.Footprints

/-!
# Members that are unpacked

A member of an archive is skipped, made a directory, or written as a file: `Handled` is the
record of how a member was handled, and unpacking a member succeeds exactly when there is
one (`unpackEntry_of_handled`, `handled_of_unpackEntry`). Once a member has been handled,
everything on the way of its path exists.
-/

namespace BridgeSetup.Unpack

/-! ## Writing a member -/

section Write

variable {env : Environment} {archive : Location} {entry : Zip.Entry} {start : Nat}
  {path : Path} {tree room left : FileTree} {location : Location}

/-- The data of a member, read while the file that receives them is open and empty. -/
def delivered (archive : Location) (entry : Zip.Entry) (start : Nat) (room : FileTree)
    (location : Location) : Zip.Delivery :=
  entry.deliver (imageAt (room.set location (.file [] (room.modeAt location))) archive) start

/-- What of delivered data gets into the file at a location, and the fault that ends them. -/
def received (refusals : Refusals) (location : Location) (delivery : Zip.Delivery) :
    Zip.Delivery :=
  ⟨refusals.admitted location delivery.bytes,
    ((refusals.overflow location delivery.bytes).map .system).or delivery.fault⟩

theorem writeMember_run (roomy : (makeRoom env path).runOn tree = (.ok (), room))
    (targets : room.Targets env.workingDirectory path location)
    (writable : room.Writable env.refusals location) :
    (writeMember env archive entry start path).runOn tree =
      ((received env.refusals location (delivered archive entry start room location)).fault.elim
          (.ok ()) .error,
        room.set location
          (.file
            (received env.refusals location (delivered archive entry start room location)).bytes
            (room.modeAt location))) := by
  simp only [writeMember, TreeAction.runOn_bind, roomy, targets.openForWriting writable,
    TreeAction.runOn_look, FileTree.fillAt, TreeAction.runOn_change, TreeAction.runOn_ofExcept,
    FileTree.setContents_set targets.proper, received, delivered]
  generalize entry.deliver (imageAt (room.set location (.file [] (room.modeAt location))) archive)
    start = delivery
  rcases env.refusals.overflow location delivery.bytes with _ | fault
  · rcases delivery.fault with _ | error <;> rfl
  · rfl

/-- A member whose data are sound and fit is written. -/
theorem writeMember_of_fits (roomy : (makeRoom env path).runOn tree = (.ok (), room))
    (targets : room.Targets env.workingDirectory path location)
    (writable : room.Writable env.refusals location)
    (fits : env.refusals.overflow location (delivered archive entry start room location).bytes =
      none)
    (sound : (delivered archive entry start room location).fault = none) :
    (writeMember env archive entry start path).runOn tree =
      (.ok (), room.set location
        (.file (delivered archive entry start room location).bytes (room.modeAt location))) := by
  rw [writeMember_run roomy targets writable]
  simp [received, fits, sound, Refusals.admitted_eq fits]

/-- A member that has been written stands at the place of its path, in a tree with room for
it, and its data were sound and did fit. -/
theorem writeMember_ok
    (run : (writeMember env archive entry start path).runOn tree = (.ok (), left)) :
    ∃ room location, (makeRoom env path).runOn tree = (.ok (), room) ∧
      room.Targets env.workingDirectory path location ∧
      room.Writable env.refusals location ∧
      env.refusals.overflow location (delivered archive entry start room location).bytes = none ∧
      (delivered archive entry start room location).fault = none ∧
      left = room.set location
        (.file (delivered archive entry start room location).bytes (room.modeAt location)) := by
  rcases TreeAction.runOn_bind_eq_ok run with ⟨done, room, roomy, rest⟩
  rcases FileTree.openForWriting_run room env.refusals env.workingDirectory path with
    ⟨error, failed⟩ | ⟨location, targets, writable⟩
  · rw [TreeAction.runOn_bind, failed] at rest
    cases rest
  have whole := @writeMember_run env archive entry start path tree room location roomy targets
    writable
  rw [run, Prod.mk.injEq] at whole
  rcases fits : env.refusals.overflow location (delivered archive entry start room location).bytes
    with _ | fault
  swap
  · simp [received, fits] at whole
  rcases sound : (delivered archive entry start room location).fault with _ | error
  swap
  · simp [received, fits, sound] at whole
  refine ⟨room, location, roomy, targets, writable, fits, sound, ?_⟩
  rw [whole.2, received, Refusals.admitted_eq fits]

end Write

/-! ## Handling a member -/

/-- Sets the recorded permission bits of a member, if there are any. -/
def setRecordedMode (env : Environment) (entry : Zip.Entry) (path : Path) : TreeAction Unit :=
  match entry.mode? with
  | some mode => FileTree.setMode env.workingDirectory path (mode &&& permissionMask) env.refusals
  | none => pure ()

/-- Why a member that is a file at the given location cannot get the permission bits that are
recorded for it. -/
def modeRefusal (env : Environment) (entry : Zip.Entry) (location : Location) : Option Fault :=
  entry.mode?.bind fun _ => env.refusals.setMode location

/-- Setting the recorded permission bits fails only because it is refused, and changes nothing
then. -/
theorem setRecordedMode_eq_error_iff {env : Environment} {entry : Zip.Entry} {path : Path}
    {tree left : FileTree} {location : Location} {failure : IoError}
    (located : tree.locate env.workingDirectory path = .ok location) :
    (setRecordedMode env entry path).runOn tree = (.error failure, left) ↔
      ∃ fault, modeRefusal env entry location = some fault ∧ failure = .system fault ∧
        left = tree := by
  unfold setRecordedMode modeRefusal
  rcases entry.mode? with _ | mode
  · simp
  simp only [FileTree.setMode, TreeAction.runOn_bind, TreeAction.runOn_look, located,
    TreeAction.runOn_ofExcept, Option.bind_some]
  rcases env.refusals.setMode location with _ | fault
  · simp
  · simp [eq_comm]

theorem setRecordedMode_touches (env : Environment) (entry : Zip.Entry) (path : Path)
    (tree : FileTree) :
    FileTree.Touches (tree.OnWay env.workingDirectory path) tree
      ((setRecordedMode env entry path).runOn tree).2 := by
  unfold setRecordedMode
  split
  · exact FileTree.setMode_touches env.refusals env.workingDirectory path _ tree
  · exact .refl tree

theorem setRecordedMode_grows {env : Environment} {entry : Zip.Entry} {path : Path}
    {tree left : FileTree} (moded : (setRecordedMode env entry path).runOn tree = (.ok (), left)) :
    tree.Grows left := by
  have touches := setRecordedMode_touches env entry path tree
  rw [moded] at touches
  exact touches.grows

/-- How a member was handled: whether a file was written, and the session afterwards. -/
inductive Handled (env : Environment) (archive : Location) (destination : Path)
    (entry : Zip.Entry) (before : Session) : Bool → Session → Prop where
  | skipped {start} (opened : entry.openIn (imageAt before.files archive) = .ok start)
      (unsafeName : entry.safePath? = none) :
      Handled env archive destination entry before false
        (before.record env ⟨.warning, "skipping unsafe archive entry '" ++ entry.name ++ "'"⟩)
  | directory {start relative files}
      (opened : entry.openIn (imageAt before.files archive) = .ok start)
      (safe : entry.safePath? = some relative) (isDirectory : entry.isDirectory = true)
      (made : (FileTree.makeDirectories env.workingDirectory (destination.join relative)
        env.refusals).runOn before.files = (.ok (), files)) :
      Handled env archive destination entry before false (before.withFiles files)
  | file {start relative written files}
      (opened : entry.openIn (imageAt before.files archive) = .ok start)
      (safe : entry.safePath? = some relative) (isFile : entry.isDirectory = false)
      (wrote : (writeMember env archive entry start (destination.join relative)).runOn
        before.files = (.ok (), written))
      (moded : (setRecordedMode env entry (destination.join relative)).runOn written =
        (.ok (), files)) :
      Handled env archive destination entry before true (before.withFiles files)

section Entry

variable {env : Environment} {wrap : ZipError → SetupError} {archive : Location}
  {destination : Path} {entry : Zip.Entry} {before after : Session} {written : Bool}

theorem unpackEntry_of_handled
    (handled : Handled env archive destination entry before written after) :
    (unpackEntry env wrap archive destination entry).runOn before = (.ok written, after) := by
  cases handled with
  | skipped opened unsafeName =>
      simp only [unpackEntry, Task.runOn_bind, Task.runOn_look, opened, Except.mapError,
        Task.runOn_ofExcept, unsafeName, Task.runOn_say, Task.runOn_pure]
  | directory opened safe isDirectory made =>
      simp only [unpackEntry, Task.runOn_bind, Task.runOn_look, opened, Except.mapError,
        Task.runOn_ofExcept, safe, isDirectory, ↓reduceIte, Task.runOn_onFiles_of_ok made,
        Task.runOn_pure]
  | @file start relative middle files opened safe isFile wrote moded =>
      simp only [unpackEntry, Task.runOn_bind, Task.runOn_look, opened, Except.mapError,
        Task.runOn_ofExcept, safe, isFile, Bool.false_eq_true, ↓reduceIte,
        Task.runOn_onFiles_of_ok wrote]
      unfold setRecordedMode at moded
      rcases recorded : entry.mode? with _ | mode
      · simp only [recorded, TreeAction.runOn_pure, Prod.mk.injEq, true_and] at moded
        rw [moded]
        rfl
      · simp only [recorded] at moded
        have session : (before.withFiles middle).files = middle := rfl
        rw [← session] at moded
        simp only [Task.runOn_bind, Task.runOn_onFiles_of_ok moded]
        rfl

theorem handled_of_unpackEntry
    (run : (unpackEntry env wrap archive destination entry).runOn before = (.ok written, after)) :
    Handled env archive destination entry before written after := by
  rcases opened : entry.openIn (imageAt before.files archive) with error | start
  · simp [unpackEntry, Task.runOn_bind, opened, Except.mapError] at run
  rcases safe : entry.safePath? with _ | relative
  · simp only [unpackEntry, Task.runOn_bind, Task.runOn_look, opened, Except.mapError,
      Task.runOn_ofExcept, safe, Task.runOn_say, Task.runOn_pure, Prod.mk.injEq,
      Except.ok.injEq] at run
    rcases run with ⟨rfl, rfl⟩
    exact .skipped opened safe
  rcases kind : entry.isDirectory with _ | _
  · simp only [unpackEntry, Task.runOn_bind, Task.runOn_look, opened, Except.mapError,
      Task.runOn_ofExcept, safe, kind, Bool.false_eq_true, ↓reduceIte] at run
    split at run
    · next done middle first =>
        rcases Task.runOn_onFiles_eq_ok first with ⟨files, wrote, rfl⟩
        rcases recorded : entry.mode? with _ | mode
        · simp only [recorded, Task.runOn_pure, Prod.mk.injEq, Except.ok.injEq] at run
          rcases run with ⟨rfl, rfl⟩
          exact .file opened safe kind wrote (by simp [setRecordedMode, recorded])
        · simp only [recorded] at run
          rcases Task.runOn_bind_eq_ok run with ⟨_, last, second, ended⟩
          rcases Task.runOn_onFiles_eq_ok second with ⟨moded, set, rfl⟩
          cases ended
          exact .file opened safe kind wrote (by simpa [setRecordedMode, recorded] using set)
    · cases run
  · simp only [unpackEntry, Task.runOn_bind, Task.runOn_look, opened, Except.mapError,
      Task.runOn_ofExcept, safe, kind, ↓reduceIte] at run
    split at run
    · next done middle first =>
        rcases Task.runOn_onFiles_eq_ok first with ⟨files, made, rfl⟩
        cases run
        exact .directory opened safe kind made
    · cases run

theorem Handled.grows (handled : Handled env archive destination entry before written after) :
    before.files.Grows after.files := by
  cases handled with
  | skipped _ _ => exact (before.record_alike env _).grows
  | @directory start relative files _ _ _ made =>
      have touches := FileTree.makeDirectories_touches env.refusals env.workingDirectory
        (destination.join relative) before.files
      rw [made] at touches
      exact touches.grows
  | @file start relative middle files _ _ _ wrote moded =>
      have first := writeMember_touches env before.files archive entry start
        (destination.join relative)
      rw [wrote] at first
      exact first.grows.trans (setRecordedMode_grows moded)

theorem isDirectory_of_made {relative : Path} {tree files : FileTree}
    (safe : entry.safePath? = some relative) (isDirectory : entry.isDirectory = true)
    (made : (FileTree.makeDirectories env.workingDirectory (destination.join relative)
      env.refusals).runOn tree = (.ok (), files)) :
    files.isDirectory env.workingDirectory (destination.join relative) = true := by
  have named : relative.text ≠ "" := by
    rw [eq_of_safePath? safe]
    intro empty
    rw [Zip.Entry.isDirectory, show entry.name = "" from empty] at isDirectory
    exact absurd isDirectory (by decide)
  exact FileTree.isDirectory_of_makeDirectories (Path.join_text_ne_empty named) made

/-- The path of a member that has been handled names something, if the member's name is
safe. -/
theorem Handled.pathExists (handled : Handled env archive destination entry before written after)
    {relative : Path} (isSafe : entry.safePath? = some relative) :
    after.files.pathExists env.workingDirectory (destination.join relative) = true := by
  cases handled with
  | skipped _ unsafeName =>
      rw [isSafe] at unsafeName
      cases unsafeName
  | directory _ safe isDirectory made =>
      cases isSafe.symm.trans safe
      exact FileTree.pathExists_of_isDirectory (isDirectory_of_made safe isDirectory made)
  | @file start relative middle files _ safe _ wrote moded =>
      cases isSafe.symm.trans safe
      rcases writeMember_ok wrote with ⟨room, location, _, targets, writable, _, _, rfl⟩
      exact (setRecordedMode_grows moded).pathExists (targets.pathExists_set writable.free _ _)

end Entry

/-! ## Opened archives -/

/-- The members that the archive of a given path lists; one that cannot be read lists none. -/
def listedIn (env : Environment) (tree : FileTree) (archive : Path) : List Zip.Entry :=
  match tree.read env.workingDirectory archive with
  | .ok bytes =>
    match Zip.entriesOf bytes.toArray with
    | .ok entries => entries
    | .error _ => []
  | .error _ => []

section Open

variable {env : Environment} {wrap : ZipError → SetupError} {archive : Path}

theorem openArchive_of_readable {session : Session} {location : Location} {bytes : Bytes}
    {entries : List Zip.Entry}
    (opens : session.files.openForReading env.workingDirectory archive env.refusals =
      .ok location)
    (contents : session.files.readAt location = .ok bytes)
    (listed : Zip.entriesOf bytes.toArray = .ok entries) :
    (openArchive env wrap archive).runOn session = (.ok ⟨location, entries⟩, session) := by
  simp only [openArchive, Task.runOn_bind, Task.runOn_look, Task.runOn_ofExcept, opens,
    contents, listed, Except.mapError, Task.runOn_pure]

/-- Opening an archive changes nothing, and what is open is what the archive lists. -/
theorem openArchive_run (env : Environment) (wrap : ZipError → SetupError) (archive : Path)
    (session : Session) :
    (∃ error, (openArchive env wrap archive).runOn session = (.error error, session)) ∨
      ∃ location bytes entries,
        session.files.openForReading env.workingDirectory archive env.refusals = .ok location ∧
        session.files.readAt location = .ok bytes ∧
        Zip.entriesOf bytes.toArray = .ok entries ∧
        (openArchive env wrap archive).runOn session = (.ok ⟨location, entries⟩, session) := by
  rcases opens : session.files.openForReading env.workingDirectory archive env.refusals with
    error | location
  · left
    simp [openArchive, Task.runOn_bind, opens, Except.mapError]
  rcases contents : session.files.readAt location with error | bytes
  · left
    simp [openArchive, Task.runOn_bind, opens, contents, Except.mapError]
  rcases listed : Zip.entriesOf bytes.toArray with error | entries
  · left
    refine ⟨wrap error, ?_⟩
    simp only [openArchive, Task.runOn_bind, Task.runOn_look, Task.runOn_ofExcept, opens,
      contents, listed, Except.mapError]
  · right
    exact ⟨location, bytes, entries, rfl, contents, listed,
      openArchive_of_readable opens contents listed⟩

theorem listedIn_eq {tree : FileTree} {location : Location} {bytes : Bytes}
    {entries : List Zip.Entry}
    (opens : tree.openForReading env.workingDirectory archive env.refusals = .ok location)
    (contents : tree.readAt location = .ok bytes)
    (listed : Zip.entriesOf bytes.toArray = .ok entries) : listedIn env tree archive = entries := by
  simp [listedIn, FileTree.read, FileTree.openForReading_none,
    FileTree.locate_of_openForReading opens, contents, listed, bind, Except.bind]

end Open

/-- What is logged when an archive is about to be unpacked. -/
def unzipEntry (archive : Path) : Entry :=
  ⟨.info, "unzipping '" ++ archive.text ++ "'"⟩

/-- What is logged when an archive has been unpacked. -/
def unpackedEntry (count : Nat) (destination : Path) : Entry :=
  ⟨.debug, "unpacked " ++ toString count ++ " files into '" ++ destination.text ++ "'"⟩

theorem said_unzip (env : Environment) (archive : Path) (session : Session) :
    (Task.say env .info ("unzipping '" ++ archive.text ++ "'") : Task SetupError Unit).runOn
      session = (.ok (), session.record env (unzipEntry archive)) := rfl

/-- Unpacking an archive that is there succeeds when it can be opened and its members can be
unpacked. -/
theorem unpackListed_ok {env : Environment} {archive destination : Path}
    {session after : Session} {outcome : Outcome}
    (run : (unpackListed env archive destination).runOn session = (.ok outcome, after)) :
    ∃ location bytes entries count middle,
      (session.record env (unzipEntry archive)).files.openForReading env.workingDirectory archive
        env.refusals = .ok location ∧
      (session.record env (unzipEntry archive)).files.readAt location = .ok bytes ∧
      Zip.entriesOf bytes.toArray = .ok entries ∧
      (unpackEntries env (.unpack archive) location destination entries).runOn
        (session.record env (unzipEntry archive)) = (.ok count, middle) ∧
      outcome = .unpacked count ∧
      after = middle.record env (unpackedEntry count destination) := by
  rcases Task.runOn_bind_eq_ok run with ⟨_, said, first, rest⟩
  cases first
  rcases Task.runOn_bind_eq_ok rest with ⟨opened, left, second, rest⟩
  rcases openArchive_run env (.unpack archive) archive
      (session.record env (unzipEntry archive)) with
    ⟨error, failed⟩ | ⟨location, bytes, entries, opens, contents, listed, succeeded⟩
  · cases failed.symm.trans second
  · cases succeeded.symm.trans second
    rcases Task.runOn_bind_eq_ok rest with ⟨count, middle, third, ended⟩
    rcases Task.runOn_bind_eq_ok ended with ⟨_, last, fourth, finished⟩
    cases fourth
    cases finished
    exact ⟨location, bytes, entries, count, middle, opens, contents, listed, third, rfl, rfl⟩

end BridgeSetup.Unpack

namespace BridgeSetup

/-! ## A small archive -/

/-- An archive with one empty member `m`. -/
def sampleArchive : Bytes :=
  [80, 75, 3, 4, 20, 0, 0, 0, 0, 0, 0, 0, 33, 0, 0, 0, 0, 0, 0, 0, 0, 0, 0, 0, 0, 0, 1, 0, 0, 0,
    109, 80, 75, 1, 2, 20, 3, 20, 0, 0, 0, 0, 0, 0, 0, 33, 0, 0, 0, 0, 0, 0, 0, 0, 0, 0, 0, 0, 0,
    1, 0, 0, 0, 0, 0, 0, 0, 0, 0, 0, 0, 0, 0, 0, 0, 0, 0, 109, 80, 75, 5, 6, 0, 0, 0, 0, 1, 0, 1,
    0, 47, 0, 0, 0, 31, 0, 0, 0, 0, 0]

def sampleEnvironment : Environment where
  workingDirectory := []
  bindings := []
  executable := ⟨"/beampy-setup"⟩
  programs _ files := (.error .notFound, files)

theorem sampleEnvironment_reopens : sampleEnvironment.refusals.Reopens :=
  fun _ _ => rfl

theorem sampleEnvironment_logsNowhere (location : Location) :
    ¬ sampleEnvironment.LogsAt location := by
  rintro ⟨logFile, none, _⟩
  cases none

end BridgeSetup
