import BridgeSetup.Proofs.FileTree.Shapes
import BridgeSetup.Proofs.Setup.Gating

/-!
# Forced runs renew what they write

A forced run writes everything again, whatever is there. We follow two runs from trees of one
shape side by side (`Abreast`): what their files hold may differ at stale locations, as long as
nothing stale is read. Every step takes both runs to the same result, and what a step has
written is stale no longer. When the runs come to loading the installer, nothing that they have
written is stale (`run_renews`).

What is read is the Java module, and the archive of the distribution unless it has just been
extracted from the Java module.
-/

namespace BridgeSetup

open FileTree (Matches SameRights SameShape)

/-! ## Locations that stay stale -/

namespace FileTree

/-- A location is stale still when the given paths have been written: none of them names it. -/
def StaleBut (tree : FileTree) (here : Location) (paths : Path → Prop)
    (stale : Location → Prop) (location : Location) : Prop :=
  stale location ∧ ∀ path, paths path → tree.locate here path ≠ .ok location

variable {refusals : Refusals} {here : Location} {paths : Path → Prop} {stale : Location → Prop}

/-- What paths name that lead somewhere, they name in a tree that has grown, too. -/
theorem StaleBut.grow {before after : FileTree} (grows : Grows before after)
    (there : ∀ path, paths path → before.pathExists here path = true) {location : Location}
    (isStale : before.StaleBut here paths stale location) :
    after.StaleBut here paths stale location := by
  refine ⟨isStale.1, ?_⟩
  intro path written located
  rcases pathExists_iff.mp (there path written) with ⟨place, found, _⟩
  cases (grows.locate found).symm.trans located
  exact isStale.2 path written found

/-- Once files that some paths name hold the same, what these paths name is stale no longer. -/
theorem Matches.renew {first second : FileTree} (matching : first.Matches refusals stale second)
    (same : ∀ path location, paths path → first.locate here path = .ok location →
      second.contentsAt? location = first.contentsAt? location) :
    first.Matches refusals (first.StaleBut here paths stale) second := by
  refine ⟨matching.shape, ?_, matching.rights⟩
  intro location fresh
  by_cases isStale : stale location
  · simp only [StaleBut, isStale, true_and, not_forall, not_not] at fresh
    rcases fresh with ⟨path, written, located⟩
    exact same path location written located
  · exact matching.contents location isStale

/-- A file that is written where its path puts it is stale no longer. -/
theorem Targets.matches_setFile {first second : FileTree} {path : Path} {location : Location}
    (matching : first.Matches refusals stale second) (targets : first.Targets here path location)
    (free : first.isDirectoryAt location = false) (contents : Bytes) :
    (first.set location (.file contents (first.modeAt location))).Matches refusals
      ((first.set location (.file contents (first.modeAt location))).StaleBut here (· = path) stale)
      (second.set location (.file contents (second.modeAt location))) := by
  have written := matching.setFile targets.proper contents
  refine (written.mono fun _ isStale => isStale.1).renew ?_
  intro other place named located
  rw [named] at located
  have there : (first.set location (.file contents (first.modeAt location))).locate here path =
      .ok location :=
    (targets.grow (grows_set (targets.fits free contents _))).locate
      (by simp [get?_set_self first targets.proper])
  cases there.symm.trans located
  exact written.contents location fun isStale => isStale.2 rfl

/-- What was there before a file was written is named by the paths that named it before. -/
theorem Targets.locate_of_set {tree : FileTree} {path other : Path} {location place : Location}
    {contents : Bytes} {mode : Nat} (targets : tree.Targets here path location)
    (free : tree.isDirectoryAt location = false)
    (located : (tree.set location (.file contents mode)).locate here other = .ok place)
    (present : tree.get? place ≠ none) : tree.locate here other = .ok place := by
  rcases locate_eq_ok_iff.mp located with ⟨checked, used, bound, leads⟩
  refine locate_eq_ok_iff.mpr ⟨checked, used, bound, ?_⟩
  refine leads.ungrow (grows_set (targets.fits free contents mode)) ?_
  intro there left reaches presentLater
  by_cases written : there = location
  · -- A file ends the way, so this is the place that is named.
    rcases Leads.of_reaches reaches leads with ⟨later, onward⟩
    rcases left with _ | ⟨segment, rest⟩
    · cases onward
      exact present
    · have directory := onward.isDirectoryAt_of_cons
      simp [written, FileTree.isDirectoryAt, get?_set_self tree targets.proper] at directory
  · rwa [get?_set_of_ne tree written] at presentLater

end FileTree

/-! ## Runs side by side -/

/-- Two runs have logged the same, and their files match. -/
structure Abreast (env : Environment) (stale : Location → Prop) (first second : Session) :
    Prop where
  log : second.log = first.log
  files : first.files.Matches env.refusals stale second.files

namespace Abreast

variable {env : Environment} {stale : Location → Prop} {first second : Session}

theorem mono {wider : Location → Prop} (abreast : Abreast env stale first second)
    (within : ∀ location, stale location → wider location) : Abreast env wider first second :=
  ⟨abreast.log, abreast.files.mono within⟩

theorem record (abreast : Abreast env stale first second) (entry : Entry) :
    Abreast env stale (first.record env entry) (second.record env entry) := by
  unfold Session.record
  rw [abreast.log]
  split
  · refine ⟨rfl, ?_⟩
    rcases env.logFile with _ | logFile
    · exact abreast.files
    · exact abreast.files.writeAt _ _ _
  · exact abreast

theorem recordAll (abreast : Abreast env stale first second)
    (entries : List Entry) :
    Abreast env stale (first.recordAll env entries) (second.recordAll env entries) := by
  unfold Session.recordAll
  induction entries generalizing first second with
  | nil => exact abreast
  | cons entry rest ih =>
      rw [List.foldl_cons, List.foldl_cons]
      exact ih (abreast.record entry)

theorem withFiles {wider : Location → Prop} (abreast : Abreast env stale first second)
    {files others : FileTree} (matching : files.Matches env.refusals wider others) :
    Abreast env wider (first.withFiles files) (second.withFiles others) :=
  ⟨abreast.log, matching⟩

end Abreast

/-! ## Members -/

namespace Unpack

variable {env : Environment} {stale : Location → Prop} {archive : Location} {destination : Path}
  {entry : Zip.Entry} {wrap : ZipError → SetupError}

theorem makeRoom_steady (path : Path) :
    TreeAction.Steady env.refusals stale (makeRoom env path) := by
  unfold makeRoom
  split
  · exact FileTree.makeDirectories_steady _ _
  · exact .pure ()

theorem setRecordedMode_steady (path : Path) :
    TreeAction.Steady env.refusals stale (setRecordedMode env entry path) := by
  unfold setRecordedMode
  split
  · exact FileTree.setMode_steady _ _ _
  · exact .pure ()

theorem writeMember_matches {start : Nat} {path : Path} {first second left : FileTree}
    (matching : first.Matches env.refusals stale second) (fresh : ¬ stale archive)
    (run : (writeMember env archive entry start path).runOn first = (.ok (), left)) :
    ∃ leftAgain, (writeMember env archive entry start path).runOn second = (.ok (), leftAgain) ∧
      left.Matches env.refusals (left.StaleBut env.workingDirectory (· = path) stale)
        leftAgain := by
  rcases writeMember_ok run with ⟨room, location, roomy, targets, writable, fits, sound, rfl⟩
  rcases (makeRoom_steady path).again matching roomy with ⟨roomAgain, roomyAgain, rooms⟩
  have targetsAgain := targets.grow rooms.shape.grows
  have same : delivered archive entry start roomAgain location =
      delivered archive entry start room location :=
    delivered_congr targets.proper (rooms.contents archive fresh)
  rw [← same] at fits sound
  have wrote := writeMember_of_fits roomyAgain targetsAgain (rooms.writable writable) fits sound
  rw [same] at wrote
  exact ⟨_, wrote, targets.matches_setFile rooms writable.free _⟩

/-- A member is handled alike in both runs, and what it is written to is stale no longer. -/
theorem Handled.abreast {first second left : Session} {written : Bool}
    (abreast : Abreast env stale first second) (fresh : ¬ stale archive)
    (handled : Handled env archive destination entry first written left) :
    ∃ leftAgain, Handled env archive destination entry second written leftAgain ∧
      Abreast env (left.files.StaleBut env.workingDirectory (MemberPath destination [entry]) stale)
        left leftAgain := by
  have image : imageAt second.files archive = imageAt first.files archive :=
    imageAt_congr (abreast.files.contents archive fresh)
  cases handled with
  | skipped opened unsafeName =>
      rw [← image] at opened
      have recorded := abreast.record
        ⟨.warning, "skipping unsafe archive entry '" ++ entry.name ++ "'"⟩
      refine ⟨_, .skipped opened unsafeName, recorded.log, recorded.files.renew ?_⟩
      rintro path location ⟨member, among, relative, safe, _⟩
      cases List.mem_singleton.mp among
      cases unsafeName.symm.trans safe
  | @directory start relative files opened safe isDirectory made =>
      have there := isDirectory_of_made safe isDirectory made
      rw [← image] at opened
      rcases (FileTree.makeDirectories_steady _ _).again abreast.files made with
        ⟨filesAgain, madeAgain, matching⟩
      refine ⟨_, .directory opened safe isDirectory madeAgain,
        abreast.withFiles (matching.renew ?_)⟩
      -- A directory holds nothing that could be stale.
      rintro path location ⟨member, among, other, safeAgain, rfl⟩ located
      cases List.mem_singleton.mp among
      cases safe.symm.trans safeAgain
      rcases FileTree.isDirectory_iff.mp there with ⟨place, found, directory⟩
      cases found.symm.trans located
      have directoryAgain := (matching.shape.isDirectoryAt_eq location).trans directory
      simp only [FileTree.isDirectoryAt, decide_eq_true_eq] at directory directoryAgain
      simp [FileTree.contentsAt?, directory, directoryAgain]
  | @file start relative middle files opened safe isFile wrote moded =>
      have there : middle.pathExists env.workingDirectory (destination.join relative) = true := by
        rcases writeMember_ok wrote with ⟨room, location, _, targets, writable, _, _, rfl⟩
        exact targets.pathExists_set writable.free _ _
      rw [← image] at opened
      rcases writeMember_matches abreast.files fresh wrote with ⟨middleAgain, wroteAgain, matching⟩
      rcases (setRecordedMode_steady _).again matching moded with
        ⟨filesAgain, modedAgain, matchingModed⟩
      refine ⟨_, .file opened safe isFile wroteAgain modedAgain, abreast.withFiles ?_⟩
      refine matchingModed.mono ?_
      intro location isStale
      have still := isStale.grow (setRecordedMode_grows moded) (by simpa using there)
      refine ⟨still.1, ?_⟩
      rintro path ⟨member, among, other, safeAgain, rfl⟩
      cases List.mem_singleton.mp among
      cases safe.symm.trans safeAgain
      exact still.2 _ rfl

/-- The members are handled alike in both runs, and what they are written to is stale no
longer. -/
theorem unpackEntries_abreast {entries : List Zip.Entry} {first second left : Session} {count : Nat}
    (abreast : Abreast env stale first second) (fresh : ¬ stale archive)
    (run : (unpackEntries env wrap archive destination entries).runOn first = (.ok count, left)) :
    ∃ leftAgain,
      (unpackEntries env wrap archive destination entries).runOn second =
        (.ok count, leftAgain) ∧
      Abreast env (left.files.StaleBut env.workingDirectory (MemberPath destination entries) stale)
        left leftAgain := by
  induction entries generalizing first second stale count with
  | nil =>
      cases run
      refine ⟨second, rfl, abreast.log, abreast.files.renew ?_⟩
      rintro path location ⟨member, among, _⟩
      cases among
  | cons entry rest ih =>
      rcases Task.runOn_bind_eq_ok run with ⟨written, middle, handling, others⟩
      rcases Task.runOn_bind_eq_ok others with ⟨number, last, unpacking, ended⟩
      cases ended
      have handled := handled_of_unpackEntry handling
      rcases handled.abreast abreast fresh with ⟨middleAgain, handledAgain, abreastMiddle⟩
      rcases ih abreastMiddle (fun isStale => fresh isStale.1) unpacking with
        ⟨lastAgain, unpackingAgain, abreastLast⟩
      refine ⟨lastAgain, ?_, abreastLast.mono ?_⟩
      · rw [unpackEntries, Task.runOn_bind_of_ok (unpackEntry_of_handled handledAgain),
          Task.runOn_bind_of_ok unpackingAgain]
        rfl
      · intro location isStale
        have there : ∀ path, MemberPath destination [entry] path →
            middle.files.pathExists env.workingDirectory path = true := by
          rintro path ⟨member, among, relative, safe, rfl⟩
          cases List.mem_singleton.mp among
          exact handled.pathExists safe
        have still := isStale.1.grow (present_of_unpackEntries unpacking).1 there
        refine ⟨still.1, ?_⟩
        rintro path ⟨member, among, relative, safe, rfl⟩
        rcases List.mem_cons.mp among with rfl | later
        · exact still.2 _ ⟨member, List.mem_singleton_self _, relative, safe, rfl⟩
        · exact isStale.2 _ ⟨member, later, relative, safe, rfl⟩

/-! ## Archives -/

section Archives

variable {archive : Path} {first second left : Session}

theorem openArchive_abreast {location : Location} {bytes : Bytes} {entries : List Zip.Entry}
    (abreast : Abreast env stale first second) (fresh : ¬ stale location)
    (opens : first.files.openForReading env.workingDirectory archive env.refusals = .ok location)
    (contents : first.files.readAt location = .ok bytes)
    (listed : Zip.entriesOf bytes.toArray = .ok entries) :
    (openArchive env wrap archive).runOn second = (.ok ⟨location, entries⟩, second) :=
  openArchive_of_readable ((abreast.files.openForReading_eq _ _).trans opens)
    ((abreast.files.readAt_eq fresh).trans contents) listed

/-- An archive with nothing stale in it is unpacked alike in both runs. -/
theorem unpackListed_abreast {outcome : Outcome} (abreast : Abreast env stale first second)
    (fresh : ∀ location, first.files.locate env.workingDirectory archive = .ok location →
      ¬ stale location)
    (run : (unpackListed env archive destination).runOn first = (.ok outcome, left)) :
    ∃ leftAgain,
      (unpackListed env archive destination).runOn second = (.ok outcome, leftAgain) ∧
      Abreast env (left.files.StaleBut env.workingDirectory
        (MemberPath destination (membersOf env first archive)) stale) left leftAgain := by
  rcases unpackListed_ok run with
    ⟨location, bytes, entries, count, middle, opens, contents, listed, unpacked, rfl, rfl⟩
  have located := FileTree.locate_of_openForReading opens
  have members : membersOf env first archive = entries := listedIn_eq opens contents listed
  have said := abreast.record (unzipEntry archive)
  have alike := first.record_alike env (unzipEntry archive)
  have freshHere : ¬ stale location := fresh location (alike.symm.grows.locate located)
  have opened := @openArchive_abreast env stale (.unpack archive) archive _ _ _ _ _ said freshHere
    opens contents listed
  rcases unpackEntries_abreast said freshHere unpacked with ⟨middleAgain, unpackedAgain, handled⟩
  refine ⟨middleAgain.record env (unpackedEntry count destination), ?_, ?_⟩
  · rw [unpackListed, Task.runOn_bind_of_ok (said_unzip env archive second),
      Task.runOn_bind_of_ok opened, Task.runOn_bind_of_ok unpackedAgain]
    rfl
  · refine (handled.record (unpackedEntry count destination)).mono ?_
    intro other isStale
    have recorded := middle.record_alike env (unpackedEntry count destination)
    rw [members]
    exact isStale.grow recorded.grows (present_of_unpackEntries unpacked).2

/-- A member of an archive with nothing stale in it is extracted alike in both runs. -/
theorem extractMember_abreast {member : String} {directory path : Path}
    (abreast : Abreast env stale first second)
    (fresh : ∀ location, first.files.locate env.workingDirectory archive = .ok location →
      ¬ stale location)
    (run : (extractMember env archive member directory).runOn first = (.ok path, left)) :
    ∃ leftAgain,
      (extractMember env archive member directory).runOn second = (.ok path, leftAgain) ∧
      Abreast env (left.files.StaleBut env.workingDirectory (· = path) stale) left leftAgain := by
  rcases extractMember_eq_ok run with
    ⟨location, bytes, entries, entry, start, files, opens, contents, listed, found, openable,
      safe, wrote, rfl, rfl⟩
  have freshHere := fresh location (FileTree.locate_of_openForReading opens)
  have opened := @openArchive_abreast env stale (.extraction archive member) archive _ _ _ _ _
    abreast freshHere opens contents listed
  rw [← imageAt_congr (abreast.files.contents location freshHere)] at openable
  rcases writeMember_matches abreast.files freshHere wrote with ⟨filesAgain, wroteAgain, matching⟩
  refine ⟨second.withFiles filesAgain, ?_, abreast.withFiles matching⟩
  simp only [extractMember, Task.runOn_bind_of_ok opened, found, Task.runOn_bind,
    Task.runOn_look, openable, Except.mapError, Task.runOn_ofExcept, safe,
    Task.runOn_onFiles_of_ok wroteAgain, Task.runOn_pure]

end Archives

end Unpack

/-! ## Preparing -/

namespace Setup

open FileTree (StaleBut)

variable {env : Environment} {options : SetupOptions} {runtime : Runtime}
  {paths : InstallPaths} {stale : Location → Prop} {first second left : Session}

/-- Where the distribution is extracted to from a Java module that is a file. -/
def extractionPath (options : SetupOptions) (runtime : Runtime) : Path :=
  options.installDir.join ⟨(pathsFor options runtime).distribution.memberName⟩

/-- The paths at which a forced run writes files: the default configuration, the archive if it
is extracted from the Java module, and the members of the archive. -/
def Rewrites (env : Environment) (options : SetupOptions) (runtime : Runtime)
    (members : List Zip.Entry) (tree : FileTree) (path : Path) : Prop :=
  path = (pathsFor options runtime).defaultConfig ∨
  (tree.isFile env.workingDirectory options.javaModule = true ∧
    path = extractionPath options runtime) ∨
  Unpack.MemberPath options.installDir members path

/-- The default configuration is written alike in both runs if that is forced, and is stale no
longer. -/
theorem provideDefaultConfig_abreast (forced : options.force = true)
    (abreast : Abreast env stale first second)
    (run : (provideDefaultConfig env options paths).runOn first = (.ok (), left)) :
    ∃ leftAgain, (provideDefaultConfig env options paths).runOn second = (.ok (), leftAgain) ∧
      Abreast env (left.files.StaleBut env.workingDirectory (· = paths.defaultConfig) stale) left
        leftAgain := by
  rcases provideDefaultConfig_ok run with
    ⟨unforced, _, _⟩ | ⟨location, targets, writable, fits, rfl⟩
  · cases unforced.symm.trans forced
  refine ⟨_, provideDefaultConfig_of_targets (targets.grow abreast.files.shape.grows)
    (abreast.files.writable writable) fits (Or.inl forced), ?_⟩
  have wrote := abreast.withFiles (targets.matches_setFile abreast.files writable.free
    (defaultConfigPatch options).contents)
  refine (wrote.record (wroteEntry paths)).mono ?_
  intro other isStale
  refine isStale.grow (Session.record_alike env _ _).grows ?_
  rintro _ rfl
  exact targets.pathExists_set writable.free _ _

/-- What a path names once the default configuration has been provided is stale only if it was
stale before, and named by the path. -/
theorem fresh_of_provided {path : Path} (forced : options.force = true)
    (present : ∀ location, stale location → first.files.get? location ≠ none)
    (fresh : ∀ location, first.files.locate env.workingDirectory path = .ok location →
      ¬ stale location)
    (run : (provideDefaultConfig env options paths).runOn first = (.ok (), left)) :
    ∀ location, left.files.locate env.workingDirectory path = .ok location →
      ¬ left.files.StaleBut env.workingDirectory (· = paths.defaultConfig) stale location := by
  intro place located isStale
  rcases provideDefaultConfig_ok run with ⟨unforced, _, _⟩ | ⟨location, targets, writable, _, rfl⟩
  · cases unforced.symm.trans forced
  have recorded := (Session.record_alike env (first.withFiles (first.files.patchAt location
    (defaultConfigPatch options))) (wroteEntry paths)).symm
  exact fresh place (targets.locate_of_set writable.free (recorded.grows.locate located)
    (present place isStale.1)) isStale.1

/-- The archive is found alike in both runs, and is stale no longer if it has been extracted. -/
theorem findArchive_abreast {archive : Path} (forced : options.force = true)
    (abreast : Abreast env stale first second)
    (fresh : ∀ location,
      first.files.locate env.workingDirectory options.javaModule = .ok location → ¬ stale location)
    (run : (findArchive env options (pathsFor options runtime)).runOn first =
      (.ok archive, left)) :
    ∃ leftAgain, (findArchive env options (pathsFor options runtime)).runOn second =
        (.ok archive, leftAgain) ∧
      Abreast env (left.files.StaleBut env.workingDirectory (fun path =>
        first.files.isFile env.workingDirectory options.javaModule = true ∧ path = archive)
        stale) left leftAgain := by
  have needed (tree : FileTree) : Unpack.isNeeded env tree (pathsFor options runtime).marker
      options.force = true := by
    simp [Unpack.isNeeded, forced]
  have sameFile := abreast.files.shape.isFile_eq env.workingDirectory options.javaModule
  rw [findArchive_run, if_pos (needed _)] at run
  rw [findArchive_run, if_pos (needed _)]
  rcases Unpack.locateArchive_eq_ok run with ⟨file, rfl, extracted⟩ | ⟨notFile, rfl, rfl⟩
  · have said := abreast.record
      (Unpack.extractEntry options.javaModule (pathsFor options runtime).distribution.memberName)
    have freshSaid : ∀ location, (first.record env (Unpack.extractEntry options.javaModule
        (pathsFor options runtime).distribution.memberName)).files.locate env.workingDirectory
          options.javaModule = .ok location → ¬ stale location := by
      intro location located
      exact fresh location ((first.record_alike env _).symm.grows.locate located)
    rcases Unpack.extractMember_abreast said freshSaid extracted with
      ⟨leftAgain, extractedAgain, abreastLeft⟩
    refine ⟨leftAgain, ?_, abreastLeft.mono ?_⟩
    · simp only [Unpack.locateArchive, Task.runOn_bind, Task.runOn_look, sameFile, file, ↓reduceIte,
        Task.runOn_say]
      exact extractedAgain
    · rintro location isStale
      exact ⟨isStale.1, fun path written => isStale.2 path written.2⟩
  · refine ⟨second, ?_, abreast.log, abreast.files.renew ?_⟩
    · simp only [Unpack.locateArchive, Task.runOn_bind, Task.runOn_look, sameFile, notFile,
        Bool.false_eq_true, ↓reduceIte,
        Unpack.expectedArchive_of_not_isFile (sameFile.trans notFile)]
    · rintro path location ⟨file, _⟩
      cases notFile.symm.trans file

theorem archive_of_file {archive : Path} (forced : options.force = true)
    (file : first.files.isFile env.workingDirectory options.javaModule = true)
    (run : (findArchive env options (pathsFor options runtime)).runOn first =
      (.ok archive, left)) : archive = extractionPath options runtime := by
  rw [findArchive_run, if_pos (by simp [Unpack.isNeeded, forced])] at run
  rcases Unpack.locateArchive_eq_ok run with ⟨_, named, _⟩ | ⟨notFile, _, _⟩
  · exact named
  · cases notFile.symm.trans file

/-- An archive that has been found by a forced run is not stale when it is unpacked: it has
been extracted from the Java module, or it lies in the Java module and is what it was. -/
theorem fresh_of_found {archive : Path} {provided : Session} (forced : options.force = true)
    (fresh : ∀ location, provided.files.locate env.workingDirectory
      (libraryArchive options runtime) = .ok location → ¬ stale location)
    (run : (findArchive env options (pathsFor options runtime)).runOn provided =
      (.ok archive, left)) :
    ∀ location, left.files.locate env.workingDirectory archive = .ok location →
      ¬ left.files.StaleBut env.workingDirectory (fun path =>
        provided.files.isFile env.workingDirectory options.javaModule = true ∧ path = archive)
        stale location := by
  intro location located isStale
  rw [findArchive_run, if_pos (by simp [Unpack.isNeeded, forced])] at run
  rcases Unpack.locateArchive_eq_ok run with ⟨file, _, _⟩ | ⟨_, rfl, rfl⟩
  · exact isStale.2 archive ⟨file, rfl⟩ located
  · rw [← Unpack.libraryArchive_eq] at located
    exact fresh location located isStale.1

/-- Two preparations side by side: if the first one of them succeeds and reads nothing stale, so
does the second one, and what they have written is stale no longer. -/
theorem prepare_abreast {archive : Path} (forced : options.force = true)
    (abreast : Abreast env stale first second)
    (present : ∀ location, stale location → first.files.get? location ≠ none)
    (freshModule : ∀ location,
      first.files.locate env.workingDirectory options.javaModule = .ok location → ¬ stale location)
    (freshArchive : ∀ location, first.files.locate env.workingDirectory
      (libraryArchive options runtime) = .ok location → ¬ stale location)
    (run : (prepare env options runtime).runOn first = (.ok archive, left)) :
    ∃ located leftAgain,
      (findDistribution env options runtime).runOn first = (.ok archive, located) ∧
      (prepare env options runtime).runOn second = (.ok archive, leftAgain) ∧
      Abreast env (left.files.StaleBut env.workingDirectory (Rewrites env options runtime
        (Unpack.membersOf env located archive) first.files) stale) left leftAgain := by
  rcases prepare_eq_ok run with
    ⟨provided, located, outcome, finding, provide, find, unpack, foundGrown, unpackedGrown⟩
  have introduced := abreast.recordAll (introduction options runtime)
  have said := first.recordAll_alike env (introduction options runtime)
  have presentSaid : ∀ location, stale location →
      (first.recordAll env (introduction options runtime)).files.get? location ≠ none :=
    fun location isStale => said.grows.present (present location isStale)
  have moduleLater := fresh_of_provided forced presentSaid
    (fun location named => freshModule location (said.symm.grows.locate named)) provide
  have archiveLater := fresh_of_provided forced presentSaid
    (fun location named => freshArchive location (said.symm.grows.locate named)) provide
  rcases provideDefaultConfig_abreast forced introduced provide with
    ⟨providedAgain, provideAgain, abreastProvided⟩
  rcases findArchive_abreast forced abreastProvided moduleLater find with
    ⟨locatedAgain, findAgain, abreastLocated⟩
  have needed (tree : FileTree) : Unpack.isNeeded env tree (pathsFor options runtime).marker
      options.force = true := by
    simp [Unpack.isNeeded, forced]
  rcases Unpack.unpackArchive_eq_ok unpack with ⟨_, there, listed⟩ | ⟨unpacked, _, _⟩
  swap
  · cases (needed _).symm.trans unpacked
  rcases Unpack.unpackListed_abreast abreastLocated (fresh_of_found forced archiveLater find)
    listed with ⟨leftAgain, listedAgain, abreastLeft⟩
  have unpackAgain : (Unpack.unpackArchive env archive (pathsFor options runtime).marker
      options.installDir options.force).runOn locatedAgain = (.ok outcome, leftAgain) := by
    rw [Unpack.unpackArchive_run, if_pos (needed _),
      if_pos ((abreastLocated.files.shape.pathExists_eq _ _).trans there)]
    exact listedAgain
  refine ⟨located, leftAgain, finding, prepare_of_steps provideAgain findAgain unpackAgain,
    abreastLeft.mono ?_⟩
  intro location isStale
  have config := isStale.1.1.grow (foundGrown.trans unpackedGrown)
    (by simpa using pathExists_of_provided provide)
  have extracted := isStale.1.grow unpackedGrown (by simpa using fun _ => there)
  refine ⟨config.1, ?_⟩
  rintro path (isConfig | ⟨file, rfl⟩ | isMember)
  · exact config.2 path isConfig
  · have providedGrown := (@provideDefaultConfig_along env _ options runtime
      (first.recordAll env (introduction options runtime))).grows
    rw [provide] at providedGrown
    have fileLater := (said.grows.trans providedGrown).isFile file
    exact extracted.2 _ ⟨fileLater, (archive_of_file forced fileLater find).symm⟩
  · exact isStale.2 path isMember

/-- A forced run lets nothing stale survive. Two trees of one shape hold the same in the Java
module, and in the archive below it if it is a directory; whatever other files hold may differ,
and so may permission bits that make no difference to what can be opened.
If the run from the first tree comes to loading the installer, so does the run from the second.
By then both hold the same in the default configuration, in the archive if it has been
extracted, and in the members, and both would ask the same of the installer. They do ask the
same, unless loading the installer changes what exists. -/
theorem run_renews (env : Environment) (options : SetupOptions) (runtime : Runtime)
    (installer : Installer) (first second : FileTree) (minimum : Level)
    (forced : options.force = true) (shape : first.SameShape second)
    (rights : ∀ location,
      SameRights env.refusals location (first.modeAt? location) (second.modeAt? location))
    (sameModule : second.read env.workingDirectory options.javaModule =
      first.read env.workingDirectory options.javaModule)
    (sameArchive : second.read env.workingDirectory (libraryArchive options runtime) =
      first.read env.workingDirectory (libraryArchive options runtime))
    {module : Path}
    (loads : .load module ∈
      ((run env options runtime installer).runOn (.start first minimum)).2.calls) :
    .load module ∈ ((run env options runtime installer).runOn (.start second minimum)).2.calls ∧
    ∃ archive located left leftAgain,
      (findDistribution env options runtime).runOn (.start first minimum) =
        (.ok archive, located) ∧
      (prepare env options runtime).runOn (.start first minimum) = (.ok archive, left) ∧
      (prepare env options runtime).runOn (.start second minimum) = (.ok archive, leftAgain) ∧
      (∀ path, Rewrites env options runtime (Unpack.membersOf env located archive) first path →
        leftAgain.files.read env.workingDirectory path =
          left.files.read env.workingDirectory path) ∧
      Configure.requestIn env (pathsFor options runtime) options leftAgain.files =
        Configure.requestIn env (pathsFor options runtime) options left.files ∧
      ((∀ tree path, (installer.load module tree).files.pathExists env.workingDirectory path =
          tree.pathExists env.workingDirectory path) →
        ∀ request other,
          .write request ∈
            ((run env options runtime installer).runOn (.start first minimum)).2.calls →
          .write other ∈
            ((run env options runtime installer).runOn (.start second minimum)).2.calls →
          other = request) := by
  rcases gated_of_run env options runtime installer (.start first minimum) with
    ⟨made, calls, gated⟩
  rcases gated_of_run env options runtime installer (.start second minimum) with
    ⟨madeAgain, callsAgain, gatedAgain⟩
  have callsFirst : ((run env options runtime installer).runOn (.start first minimum)).2.calls =
      made := calls
  have callsSecond : ((run env options runtime installer).runOn (.start second minimum)).2.calls =
      madeAgain := callsAgain
  rw [callsFirst] at loads ⊢
  rw [callsSecond]
  rcases (gated.loads_iff module).mp loads with ⟨named, archive, left, readies, _⟩
  let stale : Location → Prop := fun location =>
    second.contentsAt? location ≠ first.contentsAt? location
  have abreast : Abreast env stale (.start first minimum) (.start second minimum) :=
    ⟨rfl, shape, fun _ fresh => by simpa [stale] using fresh, rights⟩
  have present : ∀ location, stale location → first.get? location ≠ none := by
    intro location isStale absent
    have absentAgain := absent
    rw [← FileTree.shapeAt_eq_none, ← shape location, FileTree.shapeAt_eq_none] at absentAgain
    exact isStale (by simp [FileTree.contentsAt?, absent, absentAgain])
  have prepared := readies_iff.mp readies
  rcases prepare_abreast forced abreast present
      (fun _ located isStale => isStale (shape.contentsAt?_eq sameModule located))
      (fun _ located isStale => isStale (shape.contentsAt?_eq sameArchive located)) prepared with
    ⟨located, leftAgain, finding, preparedAgain, abreastLeft⟩
  have readiesAgain := readies_iff.mpr preparedAgain
  have sameExists := abreastLeft.files.shape.pathExists_eq env.workingDirectory
  refine ⟨(gatedAgain.loads_iff module).mpr
      ⟨named, archive, leftAgain, readiesAgain, Or.inl forced⟩,
    archive, located, left, leftAgain, finding, prepared, preparedAgain, ?_,
    Configure.requestIn_congr sameExists, ?_⟩
  · intro path rewritten
    exact abreastLeft.files.read_eq fun _ located isStale => isStale.2 path rewritten located
  · intro kept request other asked askedAgain
    rcases (gated.writes_iff request).mp asked with ⟨_, reached, _, loadsHere, _, rfl⟩
    rcases (gatedAgain.writes_iff other).mp askedAgain with ⟨_, reachedAgain, _, loadsThere, _, rfl⟩
    cases (readies.unique loadsHere.1).2
    cases (readiesAgain.unique loadsThere.1).2
    subst named
    refine Configure.requestIn_congr ?_
    intro path
    simp only [Configure.loading, kept, sameExists]

def forcedOptions : SetupOptions :=
  { sampleOptions with force := true }

/-- An installation with a default configuration and a member that hold the given bytes. -/
def staleTree (bytes : Bytes) : FileTree :=
  (sampleTree.set ["beampy.ini", "d"] (.file bytes 0o644)).set ["m", "d"] (.file bytes 0o644)

def forcedRun (files : FileTree) : Except SetupError Int × Session :=
  (run sampleEnvironment forcedOptions sampleRuntime sampleInstaller).runOn (.start files .debug)

theorem run_renews_sample :
    forcedOptions.force = true ∧ (staleTree [1]).SameShape (staleTree [2]) ∧
    (∀ location, SameRights sampleEnvironment.refusals location ((staleTree [1]).modeAt? location)
      ((staleTree [2]).modeAt? location)) ∧
    (staleTree [2]).read [] forcedOptions.javaModule =
      (staleTree [1]).read [] forcedOptions.javaModule ∧
    (staleTree [2]).read [] (libraryArchive forcedOptions sampleRuntime) =
      (staleTree [1]).read [] (libraryArchive forcedOptions sampleRuntime) ∧
    .load ⟨"d/jpyutil.py"⟩ ∈ (forcedRun (staleTree [1])).2.calls ∧
    .load ⟨"d/jpyutil.py"⟩ ∈ (forcedRun (staleTree [2])).2.calls := by
  have config : (sampleTree.set ["beampy.ini", "d"] (.file [1] 0o644)).SameShape
      (sampleTree.set ["beampy.ini", "d"] (.file [2] 0o644)) :=
    (SameShape.refl sampleTree).set _ rfl
  have shape : (staleTree [1]).SameShape (staleTree [2]) := config.set _ rfl
  have sameModule : (staleTree [2]).read [] forcedOptions.javaModule =
      (staleTree [1]).read [] forcedOptions.javaModule := by decide +kernel
  have sameArchive : (staleTree [2]).read [] (libraryArchive forcedOptions sampleRuntime) =
      (staleTree [1]).read [] (libraryArchive forcedOptions sampleRuntime) := by decide +kernel
  have loads : .load ⟨"d/jpyutil.py"⟩ ∈ (forcedRun (staleTree [1])).2.calls := by decide +kernel
  -- Nothing is refused, so permission bits make no difference.
  have rights : ∀ location, SameRights sampleEnvironment.refusals location
      ((staleTree [1]).modeAt? location) ((staleTree [2]).modeAt? location) := fun _ => ⟨rfl, rfl⟩
  refine ⟨rfl, shape, rights, sameModule, sameArchive, loads, ?_⟩
  rw [forcedRun] at loads ⊢
  exact (run_renews sampleEnvironment forcedOptions sampleRuntime sampleInstaller (staleTree [1])
    (staleTree [2]) .debug rfl shape rights sameModule sameArchive loads).1

end Setup

end BridgeSetup
