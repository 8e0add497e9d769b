import BridgeSetup.Proofs.Setup.Writing

/-!
# Unpacking that fails

Unpacking fails before the first member, when the archive is missing, cannot be opened or cannot be
read as one, or it stops at a member. All members before that one have been handled, and those after
it do not count: what has been done of the member itself is all that there is besides (`Breaks`).
The main statement is `unpackArchive_eq_error_iff`, which tells for each failure when it comes about
and what it leaves.
-/

namespace BridgeSetup.Unpack

open FileTree (Leaves)

/-! ## Members at which unpacking stops -/

/-- How the handling of a member stops: the failure, and the session that is left. -/
inductive Breaks (env : Environment) (wrap : ZipError → SetupError) (archive : Location)
    (destination : Path) (entry : Zip.Entry) (before : Session) : SetupError → Session → Prop where
  /-- The member cannot be opened. Nothing has been done about it. -/
  | unopened {source} (refused : entry.openIn (imageAt before.files archive) = .error source) :
      Breaks env wrap archive destination entry before (wrap source) before
  /-- A directory cannot be made. Some of those on the way to it may have been made. -/
  | directory {start failure files}
      (opened : entry.openIn (imageAt before.files archive) = .ok start)
      (isSafe : Zip.isSafeName entry.name = true) (isDirectory : entry.isDirectory = true)
      (stopped : (FileTree.makeDirectories env.workingDirectory (destination.join ⟨entry.name⟩)
        env.refusals).runOn before.files = (.error failure, files))
      (leaves : ∀ location, Leaves env.workingDirectory (destination.join ⟨entry.name⟩) none
        before.files files location) :
      Breaks env wrap archive destination entry before (.io failure) (before.withFiles files)
  /-- A file cannot be written. Directories on the way to it may have been made, and if it has been
  opened, it holds a beginning of the data that can be decoded. -/
  | file {start failure files}
      (opened : entry.openIn (imageAt before.files archive) = .ok start)
      (isSafe : Zip.isSafeName entry.name = true) (isFile : entry.isDirectory = false)
      (stopped : (writeMember env archive entry start (destination.join ⟨entry.name⟩)).runOn
        before.files = (.error failure, files))
      (leaves : ∀ location, Leaves env.workingDirectory (destination.join ⟨entry.name⟩)
        (some (entry.decoded (imageAt before.files archive) start)) before.files files location) :
      Breaks env wrap archive destination entry before (.io failure) (before.withFiles files)
  /-- The permission bits of a file cannot be set. It has been written by then and holds all of its
  data, unless it was written over the archive, with the permission bits that it was opened with. -/
  | mode {start fault place data files}
      (opened : entry.openIn (imageAt before.files archive) = .ok start)
      (isSafe : Zip.isSafeName entry.name = true) (isFile : entry.isDirectory = false)
      (wrote : (writeMember env archive entry start (destination.join ⟨entry.name⟩)).runOn
        before.files = (.ok (), files))
      (targets : files.Targets env.workingDirectory (destination.join ⟨entry.name⟩) place)
      (written : files.get? place = some (.file data (before.files.modeAt place)))
      (complete : archive ≠ place →
        entry.deliver (imageAt before.files archive) start = ⟨data, none⟩)
      (refused : modeRefusal env entry place = some fault)
      (leaves : ∀ location, Leaves env.workingDirectory (destination.join ⟨entry.name⟩)
        (some (entry.decoded (imageAt before.files archive) start)) before.files files location) :
      Breaks env wrap archive destination entry before (.io (.system fault))
        (before.withFiles files)

section Members

variable {env : Environment} {wrap : ZipError → SetupError} {archive : Location}
  {destination : Path} {entry : Zip.Entry} {entries done : List Zip.Entry}
  {before middle after : Session} {error : SetupError} {count : Nat}

theorem unpackEntry_of_breaks
    (breaks : Breaks env wrap archive destination entry before error after) :
    (unpackEntry env wrap archive destination entry).runOn before = (.error error, after) := by
  cases breaks with
  | unopened refused =>
      simp only [unpackEntry, Task.runOn_bind, Task.runOn_look, refused, Except.mapError,
        Task.runOn_ofExcept]
  | directory opened isSafe isDirectory stopped _ =>
      have safe := safePath?_eq_some_iff.mpr ⟨isSafe, rfl⟩
      simp only [unpackEntry, Task.runOn_bind, Task.runOn_look, opened, Except.mapError,
        Task.runOn_ofExcept, safe, isDirectory, ↓reduceIte, Task.runOn_onFiles, stopped]
  | file opened isSafe isFile stopped _ =>
      have safe := safePath?_eq_some_iff.mpr ⟨isSafe, rfl⟩
      simp only [unpackEntry, Task.runOn_bind, Task.runOn_look, opened, Except.mapError,
        Task.runOn_ofExcept, safe, isFile, Bool.false_eq_true, ↓reduceIte, Task.runOn_onFiles,
        stopped]
  | @mode start fault place data files opened isSafe isFile wrote targets written _ refused _ =>
      have safe := safePath?_eq_some_iff.mpr ⟨isSafe, rfl⟩
      have located := targets.locate (by simp [written])
      have stopped := (setRecordedMode_eq_error_iff located).mpr ⟨fault, refused, rfl, rfl⟩
      rcases recorded : entry.mode? with _ | mode
      · simp [modeRefusal, recorded] at refused
      rw [setRecordedMode, recorded] at stopped
      have moding : (Task.onFiles SetupError.io (FileTree.setMode env.workingDirectory
          (destination.join ⟨entry.name⟩) (mode &&& permissionMask) env.refusals)).runOn
            (before.withFiles files) = (.error (.io (.system fault)), before.withFiles files) := by
        rw [Task.runOn_onFiles, Session.withFiles_files, stopped]
        rfl
      simp only [unpackEntry, Task.runOn_bind, Task.runOn_look, opened, Except.mapError,
        Task.runOn_ofExcept, safe, isFile, Bool.false_eq_true, ↓reduceIte,
        Task.runOn_onFiles_of_ok wrote, recorded, moding]

/-- A member is handled, or its handling stops. -/
theorem handled_or_breaks (env : Environment) (wrap : ZipError → SetupError) (archive : Location)
    (destination : Path) (entry : Zip.Entry) (before : Session) :
    (∃ written after, Handled env archive destination entry before written after) ∨
      ∃ error after, Breaks env wrap archive destination entry before error after := by
  rcases opened : entry.openIn (imageAt before.files archive) with source | start
  · right
    exact ⟨wrap source, before, .unopened opened⟩
  rcases safe : entry.safePath? with _ | relative
  · left
    exact ⟨false, _, .skipped opened safe⟩
  rcases safePath?_eq_some_iff.mp safe with ⟨isSafe, rfl⟩
  rcases kind : entry.isDirectory with _ | _
  · rcases wrote : (writeMember env archive entry start (destination.join ⟨entry.name⟩)).runOn
      before.files with ⟨failure | ⟨⟩, files⟩
    · right
      exact ⟨.io failure, _, .file opened isSafe kind wrote (writeMember_leaves wrote)⟩
    rcases moded : (setRecordedMode env entry (destination.join ⟨entry.name⟩)).runOn files with
      ⟨failure | ⟨⟩, last⟩
    · right
      rcases writeMember_written wrote with ⟨place, data, targets, written, complete, _⟩
      have located := targets.locate (by simp [written])
      rcases (setRecordedMode_eq_error_iff located).mp moded with ⟨fault, refused, _, _⟩
      exact ⟨.io (.system fault), _, .mode opened isSafe kind wrote targets written complete refused
        (writeMember_leaves wrote)⟩
    · left
      exact ⟨true, _, .file opened safe kind wrote moded⟩
  · rcases made : (FileTree.makeDirectories env.workingDirectory (destination.join ⟨entry.name⟩)
      env.refusals).runOn before.files with ⟨failure | ⟨⟩, files⟩
    · right
      have leaves := FileTree.makeDirectories_leaves env.refusals env.workingDirectory
        (destination.join ⟨entry.name⟩) none before.files
      rw [made] at leaves
      exact ⟨.io failure, _, .directory opened isSafe kind made leaves⟩
    · left
      exact ⟨false, _, .directory opened safe kind made⟩

theorem unpackEntry_eq_error_iff :
    (unpackEntry env wrap archive destination entry).runOn before = (.error error, after) ↔
      Breaks env wrap archive destination entry before error after := by
  constructor
  · intro run
    rcases handled_or_breaks env wrap archive destination entry before with
      ⟨written, left, handled⟩ | ⟨failure, left, breaks⟩
    · cases (unpackEntry_of_handled handled).symm.trans run
    · cases (unpackEntry_of_breaks breaks).symm.trans run
      exact breaks
  · exact unpackEntry_of_breaks

/-- The members after the one at which unpacking stops do not count. -/
theorem unpackEntries_of_stopped
    (handled : (unpackEntries env wrap archive destination done).runOn before =
      (.ok count, middle))
    (stopped : (unpackEntry env wrap archive destination entry).runOn middle =
      (.error error, after)) (rest : List Zip.Entry) :
    (unpackEntries env wrap archive destination (done ++ entry :: rest)).runOn before =
      (.error error, after) := by
  induction done generalizing before count with
  | nil =>
      cases handled
      simp only [List.nil_append, unpackEntries, Task.runOn_bind, stopped]
  | cons first others ih =>
      rcases Task.runOn_bind_eq_ok handled with ⟨written, left, one, more⟩
      rcases Task.runOn_bind_eq_ok more with ⟨number, last, two, ended⟩
      cases ended
      rw [List.cons_append, unpackEntries, Task.runOn_bind_of_ok one, Task.runOn_bind, ih two]

theorem unpackEntries_eq_error_iff :
    (unpackEntries env wrap archive destination entries).runOn before = (.error error, after) ↔
      ∃ done entry rest count middle, entries = done ++ entry :: rest ∧
        (unpackEntries env wrap archive destination done).runOn before = (.ok count, middle) ∧
        Breaks env wrap archive destination entry middle error after := by
  constructor
  · intro run
    rcases unpackEntries_eq_error run with
      ⟨done, entry, rest, count, middle, whole, handled, stopped⟩
    exact ⟨done, entry, rest, count, middle, whole, handled, unpackEntry_eq_error_iff.mp stopped⟩
  · rintro ⟨done, entry, rest, count, middle, rfl, handled, breaks⟩
    exact unpackEntries_of_stopped handled (unpackEntry_of_breaks breaks) rest

end Members

/-! ## Archives -/

/-- The members that the file at a location lists as an archive, or why it is none. -/
def listing (tree : FileTree) (place : Location) : Except ZipError (List Zip.Entry) :=
  match tree.readAt place with
  | .error failure => .error (.unreadable failure)
  | .ok bytes => Zip.entriesOf bytes.toArray

/-- Why what is at a location cannot be opened for reading. -/
def readRefusal (env : Environment) (tree : FileTree) (place : Location) : Option Fault :=
  env.refusals.read place (tree.modeAt? place)

/-- Unpacking an archive comes to a member: the archive can be opened and lists it, and the members
that it lists before have been handled. -/
structure Reaches (env : Environment) (archive destination : Path) (session : Session)
    (place : Location) (done : List Zip.Entry) (entry : Zip.Entry) (middle : Session) : Prop where
  located : session.files.locate env.workingDirectory archive = .ok place
  granted : readRefusal env (session.record env (unzipEntry archive)).files place = none
  listed : ∃ rest, listing (session.record env (unzipEntry archive)).files place =
    .ok (done ++ entry :: rest)
  handled : ∃ count, (unpackEntries env (.unpack archive) place destination done).runOn
    (session.record env (unzipEntry archive)) = (.ok count, middle)

/-- How unpacking an archive fails: the failure, and the session that is left. -/
inductive Fails (env : Environment) (archive destination : Path) (session : Session) :
    SetupError → Session → Prop where
  /-- Nothing is there. -/
  | missing (absent : session.files.pathExists env.workingDirectory archive = false) :
      Fails env archive destination session (.missingArchive archive) session
  /-- What is there cannot be opened. Nothing has changed but the log. -/
  | unopened {place fault after}
      (there : session.files.pathExists env.workingDirectory archive = true)
      (located : session.files.locate env.workingDirectory archive = .ok place)
      (refused : readRefusal env (session.record env (unzipEntry archive)).files place = some fault)
      (said : after = session.record env (unzipEntry archive))
      (untouched : session.files.Alike env.LogsAt after.files) :
      Fails env archive destination session (.io (.system fault)) after
  /-- What is there can be opened, but not read as an archive. Nothing has changed but the log. -/
  | unreadable {place source after}
      (there : session.files.pathExists env.workingDirectory archive = true)
      (located : session.files.locate env.workingDirectory archive = .ok place)
      (granted : readRefusal env (session.record env (unzipEntry archive)).files place = none)
      (unlisted : listing (session.record env (unzipEntry archive)).files place = .error source)
      (said : after = session.record env (unzipEntry archive))
      (untouched : session.files.Alike env.LogsAt after.files) :
      Fails env archive destination session (.unpack archive source) after
  /-- The handling of a member stops. -/
  | stopped {place done entry middle error after}
      (reaches : Reaches env archive destination session place done entry middle)
      (breaks : Breaks env (.unpack archive) place destination entry middle error after) :
      Fails env archive destination session error after

section Archives

variable {env : Environment} {archive marker destination : Path} {place : Location}
  {session middle after : Session} {done : List Zip.Entry} {entry : Zip.Entry}
  {error : SetupError}

theorem openArchive_of_refused {wrap : ZipError → SetupError} {fault : Fault}
    (located : session.files.locate env.workingDirectory archive = .ok place)
    (refused : readRefusal env session.files place = some fault) :
    (openArchive env wrap archive).runOn session = (.error (.io (.system fault)), session) := by
  unfold readRefusal at refused
  have closed : session.files.openForReading env.workingDirectory archive env.refusals =
      .error (.system fault) := by
    simp [FileTree.openForReading, located, refused, bind, Except.bind]
  simp only [openArchive, Task.runOn_bind, Task.runOn_look, Task.runOn_ofExcept, closed,
    Except.mapError]

theorem openArchive_of_granted {wrap : ZipError → SetupError}
    (located : session.files.locate env.workingDirectory archive = .ok place)
    (granted : readRefusal env session.files place = none) :
    (openArchive env wrap archive).runOn session =
      match listing session.files place with
      | .error source => (.error (wrap source), session)
      | .ok entries => (.ok ⟨place, entries⟩, session) := by
  have opens := FileTree.openForReading_eq_ok_iff.mpr ⟨located, granted⟩
  simp only [openArchive, Task.runOn_bind, Task.runOn_look, Task.runOn_ofExcept, opens,
    Except.mapError, listing]
  rcases session.files.readAt place with failure | bytes
  · rfl
  · rcases listed : Zip.entriesOf bytes.toArray with source | entries
    · simp only [listed]
    · simp only [listed, Task.runOn_pure]

theorem unpackListed_of_refused {fault : Fault}
    (located : session.files.locate env.workingDirectory archive = .ok place)
    (refused : readRefusal env (session.record env (unzipEntry archive)).files place =
      some fault) :
    (unpackListed env archive destination).runOn session =
      (.error (.io (.system fault)), session.record env (unzipEntry archive)) := by
  have locatedThen := (session.record_alike env (unzipEntry archive)).grows.locate located
  rw [unpackListed, Task.runOn_bind_of_ok (said_unzip env archive session), Task.runOn_bind,
    openArchive_of_refused locatedThen refused]

theorem unpackListed_of_granted
    (located : session.files.locate env.workingDirectory archive = .ok place)
    (granted : readRefusal env (session.record env (unzipEntry archive)).files place = none) :
    (unpackListed env archive destination).runOn session =
      match listing (session.record env (unzipEntry archive)).files place with
      | .error source =>
        (.error (.unpack archive source), session.record env (unzipEntry archive))
      | .ok entries =>
        match (unpackEntries env (.unpack archive) place destination entries).runOn
            (session.record env (unzipEntry archive)) with
        | (.error failure, left) => (.error failure, left)
        | (.ok count, left) => (.ok (.unpacked count), left.record env
            (unpackedEntry count destination)) := by
  have locatedThen := (session.record_alike env (unzipEntry archive)).grows.locate located
  rw [unpackListed, Task.runOn_bind_of_ok (said_unzip env archive session), Task.runOn_bind,
    openArchive_of_granted locatedThen granted]
  rcases listing (session.record env (unzipEntry archive)).files place with source | entries
  · rfl
  · rcases unpacked : (unpackEntries env (.unpack archive) place destination entries).runOn
      (session.record env (unzipEntry archive)) with ⟨failure | count, left⟩
    · simp only [Task.runOn_bind, unpacked]
    · simp only [Task.runOn_bind, unpacked]
      rfl

/-- Unpacking an archive that can be opened fails because it lists nothing, or stops at a member. -/
theorem unpackListed_eq_error_iff
    (located : session.files.locate env.workingDirectory archive = .ok place)
    (granted : readRefusal env (session.record env (unzipEntry archive)).files place = none) :
    (unpackListed env archive destination).runOn session = (.error error, after) ↔
      (∃ source, listing (session.record env (unzipEntry archive)).files place = .error source ∧
        error = .unpack archive source ∧ after = session.record env (unzipEntry archive)) ∨
      ∃ done entry middle, Reaches env archive destination session place done entry middle ∧
        Breaks env (.unpack archive) place destination entry middle error after := by
  rw [unpackListed_of_granted located granted]
  rcases listed : listing (session.record env (unzipEntry archive)).files place with
    source | entries
  · constructor
    · intro run
      left
      cases run
      exact ⟨source, rfl, rfl, rfl⟩
    · rintro (⟨other, same, rfl, rfl⟩ | ⟨done, entry, middle, reaches, _⟩)
      · cases same
        rfl
      · rcases reaches.listed with ⟨rest, lists⟩
        cases listed.symm.trans lists
  · constructor
    · intro run
      right
      rcases unpacked : (unpackEntries env (.unpack archive) place destination entries).runOn
        (session.record env (unzipEntry archive)) with ⟨failure | count, left⟩
      · simp only [unpacked] at run
        cases run
        rcases unpackEntries_eq_error_iff.mp unpacked with
          ⟨done, entry, rest, count, middle, rfl, handled, breaks⟩
        exact ⟨done, entry, middle, ⟨located, granted, ⟨rest, listed⟩, ⟨count, handled⟩⟩, breaks⟩
      · simp only [unpacked] at run
        cases run
    · rintro (⟨other, same, _⟩ | ⟨done, entry, middle, reaches, breaks⟩)
      · cases same
      · rcases reaches with ⟨_, _, ⟨rest, lists⟩, ⟨count, handled⟩⟩
        cases listed.symm.trans lists
        have stopped := unpackEntries_of_stopped handled (unpackEntry_of_breaks breaks) rest
        simp only [stopped]

/-- What unpacking comes to a member of is there. -/
theorem Reaches.pathExists (reaches : Reaches env archive destination session place done entry
    middle) : session.files.pathExists env.workingDirectory archive = true := by
  have alike := session.record_alike env (unzipEntry archive)
  apply FileTree.pathExists_iff.mpr
  refine ⟨place, reaches.located, alike.present_iff.mp ?_⟩
  intro absent
  rcases reaches.listed with ⟨rest, lists⟩
  simp [listing, FileTree.readAt, absent] at lists

/-- Unpacking fails in four ways, if it is needed. When nothing is where the archive should be,
that is the failure, and nothing changes. When what is there cannot be opened, a file operation has
failed, and when it can be opened but not read as an archive, the failure is that of the archive;
nothing changes in either case. Otherwise unpacking stops at a member: those before it have been
handled completely, and those after it do not count. If that member cannot be opened, the failure is
that of the archive, and nothing has been done about the member. Every other failure is one of a
file operation: of making directories, of opening the member's file, of reading or writing its data,
or of setting its permission bits. It may leave new directories on the way to the member, and the
member's own file with a beginning of its data, or all of them. -/
theorem unpackArchive_eq_error_iff (env : Environment) (archive marker destination : Path)
    (force : Bool) (session after : Session) (error : SetupError) :
    (unpackArchive env archive marker destination force).runOn session = (.error error, after) ↔
      isNeeded env session.files marker force = true ∧
        Fails env archive destination session error after := by
  rw [unpackArchive_run]
  constructor
  · intro run
    split at run
    swap
    · cases run
    next needed =>
    refine ⟨needed, ?_⟩
    split at run
    swap
    · next absent =>
        cases run
        exact .missing (by simpa using absent)
    next there =>
    rcases FileTree.pathExists_iff.mp there with ⟨place, located, _⟩
    rcases granted : readRefusal env (session.record env (unzipEntry archive)).files place with
      _ | fault
    · rcases (unpackListed_eq_error_iff located granted).mp run with
        ⟨source, unlisted, rfl, rfl⟩ | ⟨done, entry, middle, reaches, breaks⟩
      · exact .unreadable there located granted unlisted rfl (session.record_alike env _)
      · exact .stopped reaches breaks
    · cases (unpackListed_of_refused located granted).symm.trans run
      exact .unopened there located granted rfl (session.record_alike env _)
  · rintro ⟨needed, fails⟩
    rw [if_pos needed]
    cases fails with
    | missing absent => simp [absent]
    | unopened there located refused said _ =>
        rw [if_pos there, said]
        exact unpackListed_of_refused located refused
    | unreadable there located granted unlisted said _ =>
        rw [if_pos there]
        apply (unpackListed_eq_error_iff located granted).mpr
        exact Or.inl ⟨_, unlisted, rfl, said⟩
    | stopped reaches breaks =>
        rw [if_pos reaches.pathExists]
        apply (unpackListed_eq_error_iff reaches.located reaches.granted).mpr
        exact Or.inr ⟨_, _, _, reaches, breaks⟩

end Archives

/-- The archive of `overlapFiles` with other data in its last member. -/
def brokenRun : Except SetupError Outcome × Session :=
  (unpackArchive sampleEnvironment ⟨"z"⟩ ⟨"m"⟩ ⟨""⟩ false).runOn
    (.start ⟨[(["z"], .file (overlapArchive.set 102 99) 0o644)]⟩ .debug)

example :
    brokenRun.1 = .error (.io .badChecksum) ∧
    brokenRun.2.files.get? ["x"] = some (.file [99] 0o600) ∧
    brokenRun.2.files.get? ["k"] = some .directory := by
  decide +kernel

/-- An archive `z` is unpacked over a file `x` of somebody else, which can be written, but whose
permission bits cannot be set; the archive cannot be opened if it has the given permission bits. -/
def foreignRun (mode : Nat) : Except SetupError Outcome × Session :=
  let refusals : Refusals :=
    { Refusals.none with
      read := fun _ bits => if bits = some 0 then some .permissionDenied else none
      setMode := fun location => if location = ["x"] then some .notPermitted else none }
  (unpackArchive { sampleEnvironment with refusals } ⟨"z"⟩ ⟨"m"⟩ ⟨""⟩ false).runOn
    (.start ⟨[(["z"], .file overlapArchive mode), (["x"], .file [1, 2] 0o666)]⟩ .debug)

example :
    (foreignRun 0).1 = .error (.io (.system .permissionDenied)) ∧
    (foreignRun 0).2.files.get? ["x"] = some (.file [1, 2] 0o666) ∧
    (foreignRun 0o644).1 = .error (.io (.system .notPermitted)) ∧
    (foreignRun 0o644).2.files.get? ["x"] = some (.file [97] 0o666) := by
  decide +kernel

end BridgeSetup.Unpack
