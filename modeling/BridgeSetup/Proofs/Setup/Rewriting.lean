import BridgeSetup.Proofs.Run.Repeats
import BridgeSetup.Proofs.Setup.Marker

/-!
# Unpacking again

Unpacking an archive that has been unpacked works again and writes the same files again, as
long as the archive holds what it held: the directories are there, the places of the members
are the same, and so are their data. It must not be refused to open a file again that has been
written, which may have got other permission bits by then.

All the locations that are read are those of archives, so a step is taken to read the one
location of the archive that it has open.
-/

namespace BridgeSetup.Unpack

open FileTree (Lays Overlay Patch)

/-! ## Writing a member again -/

section Write

variable {env : Environment} {archive : Location} {entry : Zip.Entry} {start : Nat}
  {path : Path} {tree room left later : FileTree} {location : Location}

theorem makeRoom_lays (apart : Location → Prop) (env : Environment) (path : Path)
    (tree : FileTree) : Lays apart .blank tree ((makeRoom env path).runOn tree).2 := by
  unfold makeRoom
  split
  · exact FileTree.makeDirectories_lays apart env.refusals env.workingDirectory _ tree
  · exact .of_alike (.refl tree)

/-- Writing a file after room has been made for it adds directories only. -/
theorem lays_of_room {apart : Location → Prop}
    (roomy : (makeRoom env path).runOn tree = (.ok (), room))
    (targets : room.Targets env.workingDirectory path location)
    (free : room.isDirectoryAt location = false) (patch : Patch) :
    Lays apart (.single location patch) tree (room.patchAt location patch) := by
  have bare := makeRoom_lays apart env path tree
  rw [roomy] at bare
  rw [← Overlay.blank_andThen (.single location patch)]
  exact bare.trans (targets.lays free patch)

theorem makeRoom_again (roomy : (makeRoom env path).runOn tree = (.ok (), room))
    (grows : room.Grows later) : (makeRoom env path).runOn later = (.ok (), later) := by
  unfold makeRoom at roomy ⊢
  split at roomy
  · exact FileTree.makeDirectories_again roomy grows
  · rfl

theorem imageAt_congr {first second : FileTree}
    (same : second.contentsAt? archive = first.contentsAt? archive) :
    imageAt second archive = imageAt first archive := by
  rw [imageAt, imageAt, same]

theorem delivered_congr (proper : location ≠ [])
    (same : later.contentsAt? archive = room.contentsAt? archive) :
    delivered archive entry start later location = delivered archive entry start room location := by
  unfold delivered
  rw [imageAt_congr]
  unfold FileTree.contentsAt? at same ⊢
  by_cases itself : archive = location
  · simp [itself, FileTree.get?_set_self _ proper]
  · simpa [FileTree.get?_set_of_ne _ itself] using same

/-- A member that has been written can be written again, with the same data. -/
theorem writeMember_again (reopens : env.refusals.Reopens)
    (run : (writeMember env archive entry start path).runOn tree = (.ok (), left)) :
    ∃ room location bytes, (makeRoom env path).runOn tree = (.ok (), room) ∧
      room.Targets env.workingDirectory path location ∧
      room.isDirectoryAt location = false ∧
      left = room.patchAt location ⟨bytes, none⟩ ∧
      ∀ later, left.Grows later →
        later.contentsAt? archive = tree.contentsAt? archive →
        (writeMember env archive entry start path).runOn later =
          (.ok (), later.patchAt location ⟨bytes, none⟩) := by
  rcases writeMember_ok run with ⟨room, location, roomy, targets, writable, fits, sound, rfl⟩
  have free := writable.free
  let patch : Patch := ⟨(delivered archive entry start room location).bytes, none⟩
  refine ⟨room, location, patch.contents, roomy, targets, free, rfl, ?_⟩
  intro later grows same
  have written : (room.patchAt location patch).Grows later := grows
  have bare := makeRoom_lays (fun _ => False) env path tree
  rw [roomy] at bare
  have sameRoom : later.contentsAt? archive = room.contentsAt? archive := by
    rw [same]
    exact (FileTree.contentsAt?_congr (bare.fileAt_blank id)).symm
  have roomyLater := makeRoom_again roomy ((targets.grows_patchAt free patch).trans written)
  rcases targets.again reopens free written with ⟨targetsLater, writableLater, _⟩
  have sameData : delivered archive entry start later location =
      delivered archive entry start room location := delivered_congr targets.proper sameRoom
  rw [← sameData] at fits sound
  rw [writeMember_of_fits roomyLater targetsLater writableLater fits sound, sameData]
  rfl

/-- The permission bits that a member is to get. -/
def recordedMode (entry : Zip.Entry) : Option Nat :=
  entry.mode?.map (· &&& permissionMask)

/-- The permission bits of a file that has just been written are set, unless this is refused. -/
theorem setRecordedMode_run (targets : tree.Targets env.workingDirectory path location)
    (free : tree.isDirectoryAt location = false) (bytes : Bytes) :
    (setRecordedMode env entry path).runOn (tree.patchAt location ⟨bytes, none⟩) =
      match modeRefusal env entry location with
      | none => (.ok (), tree.patchAt location ⟨bytes, recordedMode entry⟩)
      | some fault => (.error (.system fault), tree.patchAt location ⟨bytes, none⟩) := by
  unfold setRecordedMode recordedMode modeRefusal
  rcases entry.mode? with _ | mode
  · rfl
  have found : (tree.patchAt location ⟨bytes, none⟩).get? location =
      some (.file bytes (tree.modeAt location)) :=
    FileTree.get?_set_self tree targets.proper _
  have located : (tree.patchAt location ⟨bytes, none⟩).locate env.workingDirectory path =
      .ok location :=
    (targets.grow_patchAt free _).locate (by simp [found])
  simp only [FileTree.setMode, TreeAction.runOn_bind, TreeAction.runOn_look, located,
    TreeAction.runOn_ofExcept, Option.bind_some]
  rcases env.refusals.setMode location with _ | fault
  · simp only [Refusals.check_none, TreeAction.runOn_change, FileTree.setModeAt, found]
    simp only [FileTree.patchAt, FileTree.set_set]
    rfl
  · rfl

theorem setRecordedMode_of_granted (targets : tree.Targets env.workingDirectory path location)
    (free : tree.isDirectoryAt location = false)
    (granted : modeRefusal env entry location = none) (bytes : Bytes) :
    (setRecordedMode env entry path).runOn (tree.patchAt location ⟨bytes, none⟩) =
      (.ok (), tree.patchAt location ⟨bytes, recordedMode entry⟩) := by
  rw [setRecordedMode_run targets free, granted]

theorem setRecordedMode_ok (targets : tree.Targets env.workingDirectory path location)
    (free : tree.isDirectoryAt location = false) {bytes : Bytes}
    (moded : (setRecordedMode env entry path).runOn (tree.patchAt location ⟨bytes, none⟩) =
      (.ok (), left)) :
    modeRefusal env entry location = none ∧
      left = tree.patchAt location ⟨bytes, recordedMode entry⟩ := by
  rw [setRecordedMode_run targets free] at moded
  split at moded
  · next granted =>
      cases moded
      exact ⟨granted, rfl⟩
  · cases moded

end Write

/-! ## Handling members again -/

section Entries

variable {env : Environment} {wrap : ZipError → SetupError} {archive : Location}
  {destination : Path} {entry : Zip.Entry} {members entries : List Zip.Entry}
  {before after : Session} {written : Bool}

/-- A member that has been handled can be handled again, as long as the archive holds the
same. -/
theorem Handled.repeats (reopens : env.refusals.Reopens)
    (handled : Handled env archive destination entry before written after)
    (listed : entry ∈ members) :
    ∃ overlay, Task.Repeats env (archive = ·) (MemberPath destination members)
      (unpackEntry env wrap archive destination entry) written before after overlay := by
  have image {later : Session} (same : ∀ location, archive = location →
      later.files.fileAt? location = before.files.fileAt? location) :
      imageAt later.files archive = imageAt before.files archive :=
    imageAt_congr (FileTree.contentsAt?_congr (same archive rfl))
  cases handled with
  | skipped opened unsafeName =>
      refine ⟨.blank, .of_alike (before.record_alike env _) ?_⟩
      intro later grows same
      rw [← image same] at opened
      exact ⟨_, unpackEntry_of_handled (.skipped opened unsafeName), later.record_alike env _⟩
  | @directory start relative files opened safe isDirectory made =>
      have lays := FileTree.makeDirectories_lays env.LogsAt env.refusals env.workingDirectory
        (destination.join relative) before.files
      rw [made] at lays
      refine ⟨.blank, lays, fun location covered => absurd rfl covered, ?_⟩
      intro later grows same
      rw [← image same] at opened
      have madeAgain := FileTree.makeDirectories_again made grows
      exact ⟨_, unpackEntry_of_handled (.directory opened safe isDirectory madeAgain),
        .of_alike (.refl later.files)⟩
  | @file start relative middle files opened safe isFile wrote moded =>
      rcases writeMember_again reopens wrote with
        ⟨room, location, bytes, roomy, targets, free, rfl, rewrites⟩
      have grown := setRecordedMode_grows moded
      rcases setRecordedMode_ok targets free moded with ⟨granted, rfl⟩
      refine ⟨.single location ⟨bytes, recordedMode entry⟩, lays_of_room roomy targets free _,
        ?_, ?_⟩
      · intro other covered
        cases Overlay.eq_of_single covered
        exact ⟨_, ⟨entry, listed, relative, safe, rfl⟩, targets.grow_patchAt free _⟩
      · intro later grows same
        rw [← image same] at opened
        rcases targets.again reopens free grows with ⟨targetsLater, writableLater, relays⟩
        have wroteAgain := rewrites later.files (grown.trans grows)
          (FileTree.contentsAt?_congr (same archive rfl))
        have modedAgain := setRecordedMode_of_granted targetsLater writableLater.free granted bytes
        exact ⟨_, unpackEntry_of_handled (.file opened safe isFile wroteAgain modedAgain),
          relays _ _⟩

theorem unpackEntries_repeats (reopens : env.refusals.Reopens) (quiet : ¬ env.LogsAt archive)
    {count : Nat}
    (listed : ∀ entry ∈ entries, entry ∈ members)
    (run : (unpackEntries env wrap archive destination entries).runOn before =
      (.ok count, after)) :
    ∃ overlay, Task.Repeats env (archive = ·) (MemberPath destination members)
      (unpackEntries env wrap archive destination entries) count before after overlay := by
  have quietAll : ∀ location, archive = location → ¬ env.LogsAt location := by
    rintro location rfl
    exact quiet
  induction entries generalizing before count with
  | nil =>
      cases run
      exact ⟨.blank, .pure⟩
  | cons entry rest ih =>
      rcases Task.runOn_bind_eq_ok run with ⟨written, middle, first, others⟩
      rcases Task.runOn_bind_eq_ok others with ⟨number, last, second, ended⟩
      cases ended
      rcases @Handled.repeats env wrap _ _ _ _ _ _ _ reopens (handled_of_unpackEntry first)
        (listed entry List.mem_cons_self) with ⟨_, repeats⟩
      rcases ih (fun other member => listed other (List.mem_cons_of_mem entry member)) second with
        ⟨_, repeatsRest⟩
      exact ⟨_, repeats.bind quietAll (repeatsRest.bind quietAll .pure)⟩

end Entries

/-! ## Archives that are opened again -/

section Archives

variable {env : Environment} {wrap : ZipError → SetupError} {archive destination : Path}
  {paths : Path → Prop} {location : Location} {bytes : Bytes} {entries : List Zip.Entry}
  {session after : Session}

theorem openArchive_repeats
    (opens : session.files.openForReading env.workingDirectory archive env.refusals =
      .ok location)
    (contents : session.files.readAt location = .ok bytes)
    (listed : Zip.entriesOf bytes.toArray = .ok entries) :
    Task.Repeats env (location = ·) paths (openArchive env wrap archive) ⟨location, entries⟩
      session session .blank := by
  refine .of_alike (.refl session.files) ?_
  intro later grows same
  have opensLater := FileTree.openForReading_again opens grows (same location rfl)
  have contentsLater := FileTree.readAt_of_same
    (FileTree.contentsAt?_congr (same location rfl)) contents
  exact ⟨later, openArchive_of_readable opensLater contentsLater listed, .refl later.files⟩

theorem unpackListed_repeats {outcome : Outcome} (reopens : env.refusals.Reopens)
    (quiet : ∀ location, session.files.locate env.workingDirectory archive = .ok location →
      ¬ env.LogsAt location)
    (run : (unpackListed env archive destination).runOn session = (.ok outcome, after)) :
    ∃ location overlay, session.files.locate env.workingDirectory archive = .ok location ∧
      Task.Repeats env (location = ·) (MemberPath destination (membersOf env session archive))
        (unpackListed env archive destination) outcome session after overlay := by
  rcases unpackListed_ok run with
    ⟨location, bytes, entries, count, middle, opens, contents, listed, unpacked, rfl, rfl⟩
  have alike := session.record_alike env (unzipEntry archive)
  have locatedFirst := alike.symm.grows.locate (FileTree.locate_of_openForReading opens)
  have members : membersOf env session archive = entries := listedIn_eq opens contents listed
  have quietAll : ∀ other, location = other → ¬ env.LogsAt other := by
    rintro other rfl
    exact quiet location locatedFirst
  have opened := @openArchive_repeats env (.unpack archive) archive
    (MemberPath destination entries) location bytes entries
    (session.record env (unzipEntry archive)) opens contents listed
  rcases unpackEntries_repeats reopens (quiet location locatedFirst) (fun _ member => member)
    unpacked with ⟨overlay, repeats⟩
  rw [members]
  refine ⟨location,
    Overlay.andThen .blank (.andThen .blank (overlay.andThen (.andThen .blank .blank))),
    locatedFirst, ?_⟩
  exact .bind quietAll (.say _ _) (.bind quietAll opened (.bind quietAll repeats
    (.bind quietAll (.say _ _) .pure)))

theorem extractMember_eq_ok {member : String} {directory path : Path}
    (run : (extractMember env archive member directory).runOn session = (.ok path, after)) :
    ∃ location bytes entries entry start files,
      session.files.openForReading env.workingDirectory archive env.refusals = .ok location ∧
      session.files.readAt location = .ok bytes ∧
      Zip.entriesOf bytes.toArray = .ok entries ∧
      entries.find? (·.name = member) = some entry ∧
      entry.openIn (imageAt session.files location) = .ok start ∧
      entry.safePath? = some ⟨member⟩ ∧
      (writeMember env location entry start (directory.join ⟨member⟩)).runOn session.files =
        (.ok (), files) ∧
      path = directory.join ⟨member⟩ ∧ after = session.withFiles files := by
  rcases Task.runOn_bind_eq_ok run with ⟨opened, middle, opening, run⟩
  rcases openArchive_run env (.extraction archive member) archive session with
    ⟨error, failed⟩ | ⟨location, bytes, entries, opens, contents, listed, succeeded⟩
  · cases failed.symm.trans opening
  cases succeeded.symm.trans opening
  rcases found : entries.find? (·.name = member) with _ | entry
  · simp [found] at run
  rcases openable : entry.openIn (imageAt session.files location) with error | start
  · simp [found, Task.runOn_bind, openable, Except.mapError] at run
  rcases safe : entry.safePath? with _ | relative
  · simp [found, Task.runOn_bind, openable, Except.mapError, safe] at run
  simp only [found, Task.runOn_bind, Task.runOn_look, openable, Except.mapError,
    Task.runOn_ofExcept, safe] at run
  split at run
  · next done left wrote =>
      rcases Task.runOn_onFiles_eq_ok wrote with ⟨files, written, rfl⟩
      cases run
      have named : entry.name = member := by simpa using List.find?_some found
      have isSafe := safe
      rw [eq_of_safePath? safe, named] at isSafe written
      exact ⟨location, bytes, entries, entry, start, files, opens, contents, listed, found,
        openable, isSafe, written, by rw [eq_of_safePath? safe, named], rfl⟩
  · cases run

theorem extractMember_repeats {member : String} {directory path : Path}
    (reopens : env.refusals.Reopens)
    (run : (extractMember env archive member directory).runOn session = (.ok path, after)) :
    ∃ location overlay, session.files.locate env.workingDirectory archive = .ok location ∧
      Task.Repeats env (location = ·) (directory.join ⟨member⟩ = ·)
        (extractMember env archive member directory) path session after overlay := by
  rcases extractMember_eq_ok run with
    ⟨location, bytes, entries, entry, start, files, opens, contents, listed, found, openable,
      safe, wrote, rfl, rfl⟩
  rcases writeMember_again reopens wrote with
    ⟨room, place, data, roomy, targets, free, rfl, rewrites⟩
  have lays := @lays_of_room _ _ _ _ _ env.LogsAt roomy targets free ⟨data, none⟩
  refine ⟨location, .single place ⟨data, none⟩, FileTree.locate_of_openForReading opens, lays,
    ?_, ?_⟩
  · intro other covered
    cases Overlay.eq_of_single covered
    exact ⟨_, rfl, targets.grow_patchAt free _⟩
  · intro later grows same
    have sameContents := FileTree.contentsAt?_congr (same location rfl)
    have opensLater := FileTree.openForReading_again opens (lays.grows.trans grows)
      (same location rfl)
    have contentsLater := FileTree.readAt_of_same sameContents contents
    rw [← imageAt_congr sameContents] at openable
    have wroteAgain := rewrites later.files grows sameContents
    rcases targets.again reopens free grows with ⟨_, _, relays⟩
    have opening := @openArchive_of_readable env (.extraction archive member) archive later
      location bytes entries opensLater contentsLater listed
    refine ⟨later.withFiles (later.files.patchAt place ⟨data, none⟩), ?_, relays _ _⟩
    simp only [extractMember, Task.runOn_bind_of_ok opening, found, Task.runOn_bind,
      Task.runOn_look, openable, Except.mapError, Task.runOn_ofExcept, safe,
      Task.runOn_onFiles_of_ok wroteAgain, Task.runOn_pure]

/-- The member of a Java module that holds a distribution, seen from a directory, is where the
distribution's archive is expected to be below that directory. -/
theorem libraryArchive_eq (directory : Path) (distribution : Distribution) :
    (directory.child Distribution.libraryDirectory).child distribution.archiveName =
      directory.join ⟨distribution.memberName⟩ := by
  have ends : Distribution.libraryDirectory.toList.getLast? = some 'b' := by decide
  refine Path.child_child ends (by decide) (by decide) ?_
  simp [Path.isAbsolute, Distribution.archiveName, Distribution.identifier,
    Distribution.identifierStart]

theorem memberName_relative (distribution : Distribution) :
    (⟨distribution.memberName⟩ : Path).isAbsolute = false := by
  simp [Path.isAbsolute, Distribution.memberName, Distribution.libraryDirectory]

end Archives

/-! ## Locating the archive again -/

section Locate

variable {env : Environment} {javaModule directory archive : Path} {distribution : Distribution}
  {session located : Session}

theorem expectedArchive_of_isFile {tree : FileTree}
    (file : tree.isFile env.workingDirectory javaModule = true) :
    expectedArchive env tree javaModule distribution directory =
      directory.join ⟨distribution.memberName⟩ := by
  simp [expectedArchive, file, libraryArchive_eq]

theorem expectedArchive_of_not_isFile {tree : FileTree}
    (notFile : tree.isFile env.workingDirectory javaModule = false) :
    expectedArchive env tree javaModule distribution directory =
      javaModule.join ⟨distribution.memberName⟩ := by
  simp [expectedArchive, notFile, libraryArchive_eq]

/-- What is logged when a member is about to be extracted. -/
def extractEntry (archive : Path) (member : String) : Entry :=
  ⟨.info, "extracting '" ++ member ++ "' from '" ++ archive.text ++ "'"⟩

/-- Locating an archive extracts it from the Java module, or finds it below. -/
theorem locateArchive_eq_ok
    (run : (locateArchive env javaModule distribution directory).runOn session =
      (.ok archive, located)) :
    (session.files.isFile env.workingDirectory javaModule = true ∧
      archive = directory.join ⟨distribution.memberName⟩ ∧
      (extractMember env javaModule distribution.memberName directory).runOn
        (session.record env (extractEntry javaModule distribution.memberName)) =
          (.ok archive, located)) ∨
    (session.files.isFile env.workingDirectory javaModule = false ∧
      archive = javaModule.join ⟨distribution.memberName⟩ ∧ located = session) := by
  rcases kind : session.files.isFile env.workingDirectory javaModule with _ | _
  · right
    simp only [locateArchive, Task.runOn_bind, Task.runOn_look, kind, Bool.false_eq_true,
      ↓reduceIte, expectedArchive_of_not_isFile kind, Prod.mk.injEq, Except.ok.injEq] at run
    exact ⟨rfl, run.1.symm, run.2.symm⟩
  · left
    simp only [locateArchive, Task.runOn_bind, Task.runOn_look, kind, ↓reduceIte,
      Task.runOn_say] at run
    rcases extractMember_eq_ok run with ⟨_, _, _, _, _, _, _, _, _, _, _, _, _, rfl, _⟩
    exact ⟨rfl, rfl, run⟩

/-- What comes of a Java module that is no file, but holds an archive, is no file either. -/
theorem not_isFile_of_archive {tree later : FileTree} (grows : tree.Grows later)
    (there : tree.pathExists env.workingDirectory
      (javaModule.join ⟨distribution.memberName⟩) = true) :
    later.isFile env.workingDirectory javaModule = false := by
  rcases FileTree.pathExists_iff.mp there with ⟨location, found, _⟩
  rcases FileTree.resolvesTo_of_locate_join (memberName_relative distribution) found with
    ⟨root, resolves⟩
  exact (resolves.grow grows).not_isFile

/-- An archive that has been located can be located again, and then it is extracted again if
it was extracted the first time. -/
theorem locateArchive_repeats (reopens : env.refusals.Reopens)
    (quiet : ∀ location, session.files.locate env.workingDirectory javaModule = .ok location →
      ¬ env.LogsAt location)
    (run : (locateArchive env javaModule distribution directory).runOn session =
      (.ok archive, located))
    (there : located.files.pathExists env.workingDirectory archive = true) :
    ∃ overlay, Task.Repeats env
      (fun location => session.files.locate env.workingDirectory javaModule = .ok location)
      (directory.join ⟨distribution.memberName⟩ = ·)
      (locateArchive env javaModule distribution directory) archive session located overlay := by
  rcases locateArchive_eq_ok run with ⟨file, rfl, extracted⟩ | ⟨notFile, rfl, rfl⟩
  · have alike := session.record_alike env (extractEntry javaModule distribution.memberName)
    rcases extractMember_repeats reopens extracted with ⟨location, overlay, found, repeats⟩
    have read : ∀ other, location = other →
        session.files.locate env.workingDirectory javaModule = .ok other := by
      rintro other rfl
      exact alike.symm.grows.locate found
    have whole : Task.Repeats env
        (fun location => session.files.locate env.workingDirectory javaModule = .ok location)
        (directory.join ⟨distribution.memberName⟩ = ·)
        (do
          Task.say env .info (extractEntry javaModule distribution.memberName).message
          extractMember env javaModule distribution.memberName directory)
        (directory.join ⟨distribution.memberName⟩) session located
        (Overlay.andThen .blank overlay) :=
      .bind quiet (.say _ _) (repeats.mono read)
    refine ⟨_, whole.lays, whole.placed, ?_⟩
    intro later grows same
    have fileLater := (whole.lays.grows.trans grows).isFile file
    rcases whole.again later grows same with ⟨last, again, relays⟩
    refine ⟨last, ?_, relays⟩
    simp only [locateArchive, Task.runOn_bind, Task.runOn_look, fileLater, ↓reduceIte]
    exact again
  · refine ⟨.blank, .of_alike (.refl located.files) ?_⟩
    intro later grows _
    have notFileLater := @not_isFile_of_archive env _ _ _ _ grows there
    refine ⟨later, ?_, .refl later.files⟩
    simp [locateArchive, Task.runOn_bind, notFileLater, expectedArchive_of_not_isFile notFileLater]

end Locate

end BridgeSetup.Unpack
