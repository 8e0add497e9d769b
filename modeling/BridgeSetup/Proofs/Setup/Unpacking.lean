import BridgeSetup.Proofs.FileTree.Landing
import BridgeSetup.Proofs.Run.Accounts
import BridgeSetup.Proofs.Setup.Rewriting

/-!
# What unpacking comes to

Members are handled one after the other, and several of them can have the same place: their
names can be spelled differently and reduce to the same. `unpackArchive_unpacked` tells for each
place what stands there after an archive has been unpacked. The last member that lands there has
written the contents, and the last one among them that records permission bits has set these.

The record of this is an overlay (`overlayOf`), which is laid member by member: what a list of
members does is what its first part does and then its second part (`Effect.append`).
-/

namespace BridgeSetup.Unpack

open FileTree (Lays Overlay Patch landing)
open BridgeSetup.Path (namesAfter)

/-! ## Members and their places -/

/-- Whether a member is unpacked as a file. -/
def writesFile (entry : Zip.Entry) : Bool :=
  Zip.isSafeName entry.name && !entry.isDirectory

/-- Whether a member is unpacked as the file at a location. -/
def landsAt (root location : Location) (entry : Zip.Entry) : Bool :=
  writesFile entry && landing root entry.name = location

/-- A location is that of a directory on the way to a safe member, which includes the member
itself if it is a directory. -/
def Passes (root : Location) (entry : Zip.Entry) (location : Location) : Prop :=
  Zip.isSafeName entry.name = true ∧
    ∃ front, front <+: (⟨entry.name⟩ : Path).segments ∧
      (entry.isDirectory = false → front ≠ (⟨entry.name⟩ : Path).segments) ∧
      location = namesAfter [] front ++ root

/-- An archive holds the data of a member, sound and complete. -/
def Holds (image : Zip.Image) (entry : Zip.Entry) (data : Bytes) : Prop :=
  ∃ start, entry.openIn image = .ok start ∧ entry.deliver image start = ⟨data, none⟩

/-- The data that can be read of a member. -/
def dataIn (image : Zip.Image) (entry : Zip.Entry) : Bytes :=
  match entry.openIn image with
  | .ok start => (entry.deliver image start).bytes
  | .error _ => []

theorem Holds.dataIn_eq {image : Zip.Image} {entry : Zip.Entry} {data : Bytes}
    (holds : Holds image entry data) : dataIn image entry = data := by
  rcases holds with ⟨start, opened, delivered⟩
  simp only [dataIn, opened, delivered]

/-- What is logged about a member that is skipped. -/
def skippedEntry (entry : Zip.Entry) : Entry :=
  ⟨.warning, "skipping unsafe archive entry '" ++ entry.name ++ "'"⟩

def skippedEntries (entries : List Zip.Entry) : List Entry :=
  (entries.filter fun entry => !Zip.isSafeName entry.name).map skippedEntry

/-! ## The overlay of a list of members -/

/-- What members write to the location of a file. -/
def overlayOf (root : Location) (image : Zip.Image) (entries : List Zip.Entry) : Overlay :=
  fun location =>
    let writers := entries.filter (landsAt root location)
    writers.getLast?.map fun last => ⟨dataIn image last, (writers.filterMap recordedMode).getLast?⟩

section Overlays

variable {root location : Location} {image : Zip.Image} {entry : Zip.Entry}
  {entries first second : List Zip.Entry}

theorem overlayOf_eq_none (apart : ∀ entry ∈ entries, landsAt root location entry = false) :
    overlayOf root image entries location = none := by
  have noWriters : entries.filter (landsAt root location) = [] := by
    simpa [List.filter_eq_nil_iff] using apart
  simp [overlayOf, noWriters]

theorem overlayOf_unwritten (unwritten : writesFile entry = false) :
    overlayOf root image [entry] = .blank := by
  funext location
  exact overlayOf_eq_none (by simp [landsAt, unwritten])

theorem overlayOf_written (written : writesFile entry = true) :
    overlayOf root image [entry] =
      .single (landing root entry.name) ⟨dataIn image entry, recordedMode entry⟩ := by
  funext location
  by_cases lands : landing root entry.name = location
  · rcases recorded : recordedMode entry with _ | mode <;>
      simp [overlayOf, landsAt, written, lands, Overlay.single, recorded]
  · simp [overlayOf, landsAt, written, lands, Overlay.single, Ne.symm lands]

theorem overlayOf_append :
    overlayOf root image (first ++ second) =
      (overlayOf root image first).andThen (overlayOf root image second) := by
  funext location
  simp only [overlayOf, Overlay.andThen, List.filter_append, List.filterMap_append,
    List.getLast?_append]
  -- The second list decides wherever one of its members lands.
  rcases later : (second.filter (landsAt root location)).getLast? with _ | last
  · have none := List.getLast?_eq_none_iff.mp later
    simp [none]
  · rcases earlier : (first.filter (landsAt root location)).getLast? with _ | _
    · have none := List.getLast?_eq_none_iff.mp earlier
      simp [none]
    · simp

end Overlays

/-! ## Effects -/

/-- What members have done by the time at which all of them have been handled, and this many
files have been written. -/
structure Effect (env : Environment) (root : Location) (image : Zip.Image)
    (entries : List Zip.Entry) (before after : Session) (count : Nat) : Prop where
  count : count = (entries.filter writesFile).length
  sound : ∀ entry ∈ entries, writesFile entry = true → Holds image entry (dataIn image entry)
  lays : Lays env.LogsAt (overlayOf root image entries) before.files after.files
  directories : ∀ entry ∈ entries, ∀ location, Passes root entry location →
    after.files.isDirectoryAt location = true
  log : after.log = before.log.logAll (skippedEntries entries)

section Effects

variable {env : Environment} {root archive : Location} {destination : Path} {image : Zip.Image}
  {entry : Zip.Entry} {entries first second : List Zip.Entry} {before middle after : Session}
  {count more : Nat} {written : Bool} {wrap : ZipError → SetupError}

theorem Effect.nil : Effect env root image [] before before 0 where
  count := rfl
  sound := by simp
  lays := .of_alike (.refl before.files)
  directories := by simp
  log := rfl

theorem Effect.single (counts : written = writesFile entry)
    (sound : writesFile entry = true → Holds image entry (dataIn image entry))
    (lays : Lays env.LogsAt (overlayOf root image [entry]) before.files after.files)
    (directories : ∀ location, Passes root entry location →
      after.files.isDirectoryAt location = true)
    (log : after.log = before.log.logAll (skippedEntries [entry])) :
    Effect env root image [entry] before after written.toNat where
  count := by
    rw [counts]
    rcases writes : writesFile entry with _ | _ <;> simp [writes]
  sound := by simpa using sound
  lays := lays
  directories := by simpa using directories
  log := log

theorem Effect.append (earlier : Effect env root image first before middle count)
    (later : Effect env root image second middle after more) :
    Effect env root image (first ++ second) before after (count + more) where
  count := by rw [earlier.count, later.count, List.filter_append, List.length_append]
  sound := by
    intro entry member
    rcases List.mem_append.mp member with among | among
    · exact earlier.sound entry among
    · exact later.sound entry among
  lays := by
    rw [overlayOf_append]
    exact earlier.lays.trans later.lays
  directories := by
    intro entry member location passes
    rcases List.mem_append.mp member with among | among
    · exact later.lays.grows.isDirectoryAt (earlier.directories entry among location passes)
    · exact later.directories entry among location passes
  log := by
    rw [later.log, earlier.log, ← Logger.logAll_append, skippedEntries, skippedEntries,
      ← List.map_append, ← List.filter_append]
    rfl

/-- What is read while a file is open for writing is what the archive held before, as long as the
file is not the archive. -/
theorem delivered_eq {tree room : FileTree} {location : Location} {start : Nat} {path : Path}
    (roomy : (makeRoom env path).runOn tree = (.ok (), room)) (elsewhere : archive ≠ location) :
    delivered archive entry start room location = entry.deliver (imageAt tree archive) start := by
  have bare := makeRoom_lays (fun _ => False) env path tree
  rw [roomy] at bare
  have same : (room.set location (.file [] (room.modeAt location))).contentsAt? archive =
      tree.contentsAt? archive := by
    rw [← FileTree.contentsAt?_congr (bare.fileAt_blank id), FileTree.contentsAt?,
      FileTree.contentsAt?, FileTree.get?_set_of_ne _ elsewhere]
  rw [delivered, imageAt_congr same]

theorem laid_of_written {tree written files : FileTree} {start : Nat}
    (opened : entry.openIn (imageAt tree archive) = .ok start) (isFile : writesFile entry = true)
    (wrote : (writeMember env archive entry start (destination.join ⟨entry.name⟩)).runOn tree =
      (.ok (), written))
    (moded : (setRecordedMode env entry (destination.join ⟨entry.name⟩)).runOn written =
      (.ok (), files))
    (resolves : tree.ResolvesTo env.workingDirectory destination root)
    (plain : tree.PlainBelow root) (apart : landsAt root archive entry = false) :
    Holds (imageAt tree archive) entry (dataIn (imageAt tree archive) entry) ∧
      Lays env.LogsAt (overlayOf root (imageAt tree archive) [entry]) tree files := by
  have isSafe : Zip.isSafeName entry.name = true := by
    simp only [writesFile, Bool.and_eq_true] at isFile
    exact isFile.1
  rcases writeMember_ok wrote with ⟨room, location, roomy, targets, writable, _, sound, rfl⟩
  have free := writable.free
  have bare := makeRoom_lays env.LogsAt env (destination.join ⟨entry.name⟩) tree
  rw [roomy] at bare
  have lands : location = landing root entry.name :=
    FileTree.Targets.eq_landing (resolves.grow bare.grows) (plain.grow bare.grows) isSafe targets
  have elsewhere : archive ≠ location := by
    rintro rfl
    simp [landsAt, isFile, lands] at apart
  rw [delivered_eq roomy elsewhere] at sound moded
  rcases setRecordedMode_ok targets free moded with ⟨_, rfl⟩
  have holds : Holds (imageAt tree archive) entry
      (entry.deliver (imageAt tree archive) start).bytes :=
    ⟨start, opened, by rw [← sound]⟩
  rw [overlayOf_written isFile, holds.dataIn_eq, ← lands]
  exact ⟨holds, lays_of_room roomy targets free _⟩

/-- What is on the way to a member is a directory once the member is there. -/
theorem Passes.isDirectoryAt {tree : FileTree} {location : Location}
    (passes : Passes root entry location)
    (resolves : tree.ResolvesTo env.workingDirectory destination root)
    (plain : tree.PlainBelow root)
    (there : tree.pathExists env.workingDirectory (destination.join ⟨entry.name⟩) = true)
    (kind : entry.isDirectory = true →
      tree.isDirectory env.workingDirectory (destination.join ⟨entry.name⟩) = true) :
    tree.isDirectoryAt location = true := by
  rcases passes with ⟨isSafe, front, ⟨back, parts⟩, proper, rfl⟩
  rcases isDirectory : entry.isDirectory with _ | _
  · -- There is more to come, because the member itself is no directory.
    have further : back ≠ [] := by
      rintro rfl
      exact proper isDirectory (by simpa using parts)
    exact FileTree.isDirectoryAt_of_pathExists resolves plain isSafe there parts further
  · exact FileTree.isDirectoryAt_of_isDirectory resolves plain isSafe (kind isDirectory)
      ⟨back, parts⟩

theorem Handled.effect (handled : Handled env archive destination entry before written after)
    (resolves : before.files.ResolvesTo env.workingDirectory destination root)
    (plain : before.files.PlainBelow root) (apart : landsAt root archive entry = false) :
    Effect env root (imageAt before.files archive) [entry] before after written.toNat := by
  have there {relative : Path} (safe : entry.safePath? = some relative) := handled.pathExists safe
  have resolvesLater := resolves.grow handled.grows
  have plainLater := plain.grow handled.grows
  cases handled with
  | skipped opened unsafeName =>
      have notSafe : Zip.isSafeName entry.name = false := by
        simpa [Zip.Entry.safePath?] using unsafeName
      have unwritten : writesFile entry = false := by simp [writesFile, notSafe]
      refine .single (by rw [unwritten]) (by simp [unwritten]) ?_ ?_ ?_
      · rw [overlayOf_unwritten unwritten]
        exact .of_alike (before.record_alike env _)
      · intro location passes
        cases notSafe.symm.trans passes.1
      · simp [skippedEntries, notSafe, Session.record_log, Logger.logAll, skippedEntry]
  | @directory start relative files opened safe isDirectory made =>
      rcases safePath?_eq_some_iff.mp safe with ⟨isSafe, rfl⟩
      have unwritten : writesFile entry = false := by simp [writesFile, isDirectory]
      refine .single (by rw [unwritten]) (by simp [unwritten]) ?_ ?_ ?_
      · have lays := FileTree.makeDirectories_lays env.LogsAt env.refusals env.workingDirectory
          (destination.join ⟨entry.name⟩) before.files
        rw [made] at lays
        rwa [overlayOf_unwritten unwritten]
      · intro location passes
        exact passes.isDirectoryAt resolvesLater plainLater (there safe) fun _ =>
          isDirectory_of_made safe isDirectory made
      · simp [skippedEntries, isSafe, Logger.logAll, Session.withFiles]
  | @file start relative middle files opened safe isFile wrote moded =>
      rcases safePath?_eq_some_iff.mp safe with ⟨isSafe, rfl⟩
      have writes : writesFile entry = true := by simp [writesFile, isSafe, isFile]
      rcases laid_of_written opened writes wrote moded resolves plain apart with ⟨holds, lays⟩
      refine .single (by rw [writes]) (fun _ => holds) lays ?_ ?_
      · intro location passes
        exact passes.isDirectoryAt resolvesLater plainLater (there safe) (by simp [isFile])
      · simp [skippedEntries, isSafe, Logger.logAll, Session.withFiles]

/-- Members that have all been handled have had their effect, as long as none of them is written
over the archive. -/
theorem unpackEntries_effect (quiet : ¬ env.LogsAt archive)
    (resolves : before.files.ResolvesTo env.workingDirectory destination root)
    (plain : before.files.PlainBelow root)
    (apart : ∀ entry ∈ entries, landsAt root archive entry = false)
    (run : (unpackEntries env wrap archive destination entries).runOn before =
      (.ok count, after)) :
    Effect env root (imageAt before.files archive) entries before after count := by
  induction entries generalizing before count with
  | nil =>
      cases run
      exact .nil
  | cons entry rest ih =>
      rcases Task.runOn_bind_eq_ok run with ⟨written, middle, first, others⟩
      rcases Task.runOn_bind_eq_ok others with ⟨number, last, second, ended⟩
      cases ended
      have effect := (handled_of_unpackEntry first).effect resolves plain
        (apart entry List.mem_cons_self)
      have grows := effect.lays.grows
      -- The archive still holds what it held.
      have same : imageAt middle.files archive = imageAt before.files archive := by
        refine imageAt_congr (FileTree.contentsAt?_congr
          (effect.lays.fileAt_of_none quiet (overlayOf_eq_none ?_)))
        intro other member
        cases List.mem_singleton.mp member
        exact apart entry List.mem_cons_self
      have effectRest := ih (resolves.grow grows) (plain.grow grows)
        (fun other member => apart other (List.mem_cons_of_mem entry member)) second
      rw [same] at effectRest
      rw [Nat.add_comm]
      exact effect.append effectRest

end Effects

/-! ## Unpacked archives -/

/-- An archive has been unpacked below a directory, and this many files have been written. -/
structure Unpacked (env : Environment) (root : Location) (image : Zip.Image)
    (members : List Zip.Entry) (before after : Session) (count : Nat) : Prop where
  count : count = (members.filter writesFile).length
  /-- Where members land, the last of them has written the contents, and the last of them that
  records permission bits has set these. Where none does, the file has kept those that it had. -/
  files : ∀ location, ¬ env.LogsAt location → ∀ last,
    (members.filter (landsAt root location)).getLast? = some last →
      ∃ data, Holds image last data ∧
        after.files.get? location = some (.file data
          (((members.filter (landsAt root location)).filterMap recordedMode).getLast?.getD
            (before.files.modeAt location)))
  directories : ∀ member ∈ members, ∀ location, Passes root member location →
    after.files.isDirectoryAt location = true
  others : ∀ location, ¬ env.LogsAt location →
    (∀ member ∈ members, landsAt root location member = false ∧ ¬ Passes root member location) →
      after.files.get? location = before.files.get? location
  warnings : before.log.enabled .warning = true →
    after.log.entries.filter (·.level = .warning) =
      before.log.entries.filter (·.level = .warning) ++ skippedEntries members

section Archives

variable {env : Environment} {archive marker destination : Path} {force : Bool}
  {root place location : Location} {image : Zip.Image} {members : List Zip.Entry}
  {session before after : Session} {count : Nat}

theorem Effect.files_get? (effect : Effect env root image members before after count)
    (elsewhere : ¬ env.LogsAt location) {last : Zip.Entry}
    (final : (members.filter (landsAt root location)).getLast? = some last) :
    ∃ data, Holds image last data ∧
      after.files.get? location = some (.file data
        (((members.filter (landsAt root location)).filterMap recordedMode).getLast?.getD
          (before.files.modeAt location))) := by
  rcases List.mem_filter.mp (List.mem_of_getLast? final) with ⟨member, lands⟩
  have written : writesFile last = true := by
    simp only [landsAt, Bool.and_eq_true] at lands
    exact lands.1
  refine ⟨_, effect.sound last member written, ?_⟩
  rcases effect.lays.node location elsewhere with patched | ⟨outside, _, _⟩
  · rw [patched]
    simp [Overlay.nodeAt, overlayOf, final, Patch.node, FileTree.modeAt]
  · simp [overlayOf, final] at outside

theorem get?_of_unpacked (resolves : session.files.ResolvesTo env.workingDirectory destination root)
    (plain : session.files.PlainBelow root) (elsewhere : ¬ env.LogsAt location)
    (outside : ∀ member ∈ membersOf env session archive,
      landsAt root location member = false ∧ ¬ Passes root member location) :
    ((unpackArchive env archive marker destination force).runOn session).2.files.get? location =
      session.files.get? location := by
  have spreads : session.files.Spreads _ env.LogsAt
      ((unpackArchive env archive marker destination force).runOn session).2.files :=
    unpackArchive_spreads
  by_cases onWays : session.files.OnWays env.workingDirectory
      (MemberPath destination (membersOf env session archive)) location
  · rcases onWays with ⟨_, ⟨member, among, relative, safe, rfl⟩, onWay⟩
    rcases safePath?_eq_some_iff.mp safe with ⟨isSafe, rfl⟩
    rcases FileTree.front_of_onWay resolves plain isSafe onWay with directory | ⟨front, begins, rfl⟩
    · -- What was a directory has stayed one.
      have stays := spreads.grows.isDirectoryAt directory
      simp only [FileTree.isDirectoryAt, decide_eq_true_eq] at directory stays
      exact stays.trans directory.symm
    · rcases outside member among with ⟨unwritten, unpassed⟩
      refine absurd ⟨isSafe, front, begins, ?_, rfl⟩ unpassed
      rintro isFile rfl
      simp [landsAt, writesFile, isSafe, isFile, FileTree.landing_eq isSafe] at unwritten
  · exact spreads.same location onWays elsewhere

theorem level_of_mem_skippedEntries {entry : Entry} (said : entry ∈ skippedEntries members) :
    entry.level = .warning := by
  rcases List.mem_map.mp said with ⟨member, _, rfl⟩
  rfl

/-- Of what is said while an archive is unpacked, only the skipped members are warned about. -/
theorem warnings_of_logAll {logger : Logger} (enabled : logger.enabled .warning = true) :
    (logger.logAll ([unzipEntry archive] ++ skippedEntries members ++
      [unpackedEntry count destination])).entries.filter (·.level = .warning) =
        logger.entries.filter (·.level = .warning) ++ skippedEntries members := by
  have kept : (skippedEntries members).filter
      (fun entry => decide (entry.level = .warning) && logger.enabled entry.level) =
        skippedEntries members := by
    rw [List.filter_eq_self]
    intro entry said
    simp [level_of_mem_skippedEntries said, enabled]
  simp [Logger.entries_logAll, List.filter_append, List.filter_filter, kept, unzipEntry,
    unpackedEntry]

/-- When unpacking has succeeded, it has written as many files as there are safe members that are
no directories, and each place holds what was written there last. The safe members that are
directories are there, and so are all directories on the way to safe members. Nothing else has
changed, and a warning has been logged for each unsafe member. -/
theorem unpackArchive_unpacked (env : Environment) (archive marker destination : Path)
    (force : Bool) (session after : Session) (count : Nat) (root place : Location)
    (run : (unpackArchive env archive marker destination force).runOn session =
      (.ok (.unpacked count), after))
    (resolves : session.files.ResolvesTo env.workingDirectory destination root)
    (plain : session.files.PlainBelow root)
    (located : session.files.locate env.workingDirectory archive = .ok place)
    (quiet : ¬ env.LogsAt place)
    (apart : ∀ member ∈ membersOf env session archive, landsAt root place member = false) :
    Unpacked env root (imageAt session.files place) (membersOf env session archive) session after
      count := by
  rcases unpackArchive_eq_ok run with ⟨_, _, listed⟩ | ⟨_, marked, _⟩
  swap
  · cases marked
  rcases unpackListed_ok listed with
    ⟨other, bytes, entries, number, middle, opens, contents, read, unpacked, ends, rfl⟩
  cases ends
  have members : membersOf env session archive = entries := listedIn_eq opens contents read
  have alike := session.record_alike env (unzipEntry archive)
  cases (alike.grows.locate located).symm.trans (FileTree.locate_of_openForReading opens)
  have image : imageAt (session.record env (unzipEntry archive)).files place =
      imageAt session.files place := by
    refine imageAt_congr ?_
    rw [FileTree.contentsAt?, FileTree.contentsAt?, alike.same place quiet]
  rw [members] at apart
  have effect := unpackEntries_effect quiet (resolves.grow alike.grows) (plain.grow alike.grows)
    apart unpacked
  have alikeLast := middle.record_alike env (unpackedEntry count destination)
  rw [image] at effect
  refine ⟨?_, ?_, ?_, ?_, ?_⟩
  · rw [members]
    exact effect.count
  · intro location elsewhere last final
    rw [members] at final ⊢
    rw [alikeLast.same location elsewhere, FileTree.modeAt, ← alike.same location elsewhere]
    exact effect.files_get? elsewhere final
  · intro member among location passes
    rw [members] at among
    exact alikeLast.grows.isDirectoryAt (effect.directories member among location passes)
  · intro location elsewhere outside
    have kept := @get?_of_unpacked env archive marker destination force root location session
      resolves plain elsewhere outside
    rwa [run] at kept
  · intro enabled
    have log : (middle.record env (unpackedEntry count destination)).log =
        session.log.logAll ([unzipEntry archive] ++ skippedEntries entries ++
          [unpackedEntry count destination]) := by
      rw [Session.record_log, effect.log, Session.record_log, Logger.logAll_append,
        Logger.logAll_append]
      rfl
    rw [members, log, warnings_of_logAll enabled]

end Archives

/-- An archive with two members for one place: `x`, which records permission bits, and `k/../x`,
which does not. Between them it has the unsafe member `../y`. -/
def overlapArchive : Bytes :=
  [80, 75, 3, 4, 20, 0, 0, 0, 0, 0, 0, 0, 33, 0, 67, 190, 183, 232, 1, 0, 0, 0, 1, 0, 0, 0, 1,
    0, 0, 0, 120, 97, 80, 75, 3, 4, 20, 0, 0, 0, 0, 0, 0, 0, 33, 0, 0, 0, 0, 0, 0, 0, 0, 0, 0, 0,
    0, 0, 4, 0, 0, 0, 46, 46, 47, 121, 80, 75, 3, 4, 20, 0, 0, 0, 0, 0, 0, 0, 33, 0, 249, 239,
    190, 113, 1, 0, 0, 0, 1, 0, 0, 0, 6, 0, 0, 0, 107, 47, 46, 46, 47, 120, 98, 80, 75, 1, 2, 20,
    3, 20, 0, 0, 0, 0, 0, 0, 0, 33, 0, 67, 190, 183, 232, 1, 0, 0, 0, 1, 0, 0, 0, 1, 0, 0, 0, 0,
    0, 0, 0, 0, 0, 0, 0, 128, 129, 0, 0, 0, 0, 120, 80, 75, 1, 2, 20, 3, 20, 0, 0, 0, 0, 0, 0, 0,
    33, 0, 0, 0, 0, 0, 0, 0, 0, 0, 0, 0, 0, 0, 4, 0, 0, 0, 0, 0, 0, 0, 0, 0, 0, 0, 0, 0, 32, 0, 0,
    0, 46, 46, 47, 121, 80, 75, 1, 2, 20, 3, 20, 0, 0, 0, 0, 0, 0, 0, 33, 0, 249, 239, 190, 113,
    1, 0, 0, 0, 1, 0, 0, 0, 6, 0, 0, 0, 0, 0, 0, 0, 0, 0, 0, 0, 0, 0, 66, 0, 0, 0, 107, 47, 46,
    46, 47, 120, 80, 75, 5, 6, 0, 0, 0, 0, 3, 0, 3, 0, 149, 0, 0, 0, 103, 0, 0, 0, 0, 0]

def overlapFiles : FileTree :=
  ⟨[(["z"], .file overlapArchive 0o644)]⟩

def overlapRun : Except SetupError Outcome × Session :=
  (unpackArchive sampleEnvironment ⟨"z"⟩ ⟨"m"⟩ ⟨""⟩ false).runOn (.start overlapFiles .debug)

theorem unpackArchive_unpacked_sample :
    overlapRun.1 = .ok (.unpacked 2) ∧
    overlapFiles.ResolvesTo [] ⟨""⟩ [] ∧ overlapFiles.PlainBelow [] ∧
    overlapFiles.locate [] ⟨"z"⟩ = .ok ["z"] ∧
    Unpacked sampleEnvironment [] (imageAt overlapFiles ["z"])
      (membersOf sampleEnvironment (.start overlapFiles .debug) ⟨"z"⟩)
      (.start overlapFiles .debug) overlapRun.2 2 ∧
    overlapRun.2.files.get? ["x"] = some (.file [98] 0o600) ∧
    overlapRun.2.files.get? ["k"] = some .directory := by
  have runs : overlapRun.1 = .ok (.unpacked 2) ∧
      overlapRun.2.files.get? ["x"] = some (.file [98] 0o600) ∧
      overlapRun.2.files.get? ["k"] = some .directory := by
    decide +kernel
  have resolves : overlapFiles.ResolvesTo [] ⟨""⟩ [] := ⟨by decide, by decide⟩
  have plain : overlapFiles.PlainBelow [] := by
    intro name names target found
    have listed := FileTree.mem_nodes_of_get? (by simp) found
    simp [overlapFiles] at listed
  have located : overlapFiles.locate [] ⟨"z"⟩ = .ok ["z"] := by decide
  have unlogged : ¬ sampleEnvironment.LogsAt ["z"] := by
    rintro ⟨logFile, logs, _⟩
    cases logs
  have run : overlapRun = (.ok (.unpacked 2), overlapRun.2) := by
    rw [← runs.1]
  have apart : ∀ member ∈ membersOf sampleEnvironment (.start overlapFiles .debug) ⟨"z"⟩,
      landsAt [] ["z"] member = false := by
    decide +kernel
  have unpacked := unpackArchive_unpacked sampleEnvironment ⟨"z"⟩ ⟨"m"⟩ ⟨""⟩ false
    (.start overlapFiles .debug) overlapRun.2 2 [] ["z"] run resolves plain located unlogged apart
  exact ⟨runs.1, resolves, plain, located, unpacked, runs.2⟩

end BridgeSetup.Unpack
