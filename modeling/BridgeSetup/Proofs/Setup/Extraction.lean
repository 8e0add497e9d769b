import BridgeSetup.Proofs.Setup.Interruption

/-!
# Extracting the distribution from a Java module

When the Java module is a file, the archive of the distribution is extracted from it. Everything
that can be wrong with the module is found out before anything is done: that it cannot be opened,
that it cannot be read as an archive, that it does not list the member, that the member cannot be
opened, or that its name is unsafe (`Refuses`). After that only file operations can fail, and if
they do not, the member's data are where the archive is expected (`locateArchive_extracts`).
-/

namespace BridgeSetup.Unpack

open FileTree (Leaves)

/-! ## Members that are asked for -/

/-- The archive at a location lists a member of the given name, and no other. -/
structure Lists (tree : FileTree) (place : Location) (member : String) (entry : Zip.Entry) :
    Prop where
  listed : ∃ entries, listing tree place = .ok entries ∧ entry ∈ entries ∧
    ∀ other ∈ entries, other.name = member → other = entry
  named : entry.name = member

/-- Why a member cannot be extracted from the archive at a location. -/
inductive Refuses (tree : FileTree) (place : Location) (member : String) : ZipError → Prop where
  | unlisted {source} (listed : listing tree place = .error source) :
      Refuses tree place member source
  | absent {entries} (listed : listing tree place = .ok entries)
      (absent : ∀ entry ∈ entries, entry.name ≠ member) :
      Refuses tree place member .memberNotFound
  | unopened {entry source} (lists : Lists tree place member entry)
      (refused : entry.openIn (imageAt tree place) = .error source) :
      Refuses tree place member source
  | unsafeName {entry start} (lists : Lists tree place member entry)
      (opened : entry.openIn (imageAt tree place) = .ok start)
      (isUnsafe : Zip.isSafeName member = false) :
      Refuses tree place member .unsafeName

/-- A member can be extracted from the archive at a location, as far as the archive goes. -/
structure Opens (tree : FileTree) (place : Location) (member : String) (entry : Zip.Entry)
    (start : Nat) : Prop where
  lists : Lists tree place member entry
  opened : entry.openIn (imageAt tree place) = .ok start
  isSafe : Zip.isSafeName member = true

section Members

variable {first second tree : FileTree} {place : Location} {member : String} {entry : Zip.Entry}
  {entries : List Zip.Entry} {source : ZipError} {start : Nat}

theorem lists_of_find? (listed : listing tree place = .ok entries)
    (found : entries.find? (·.name = member) = some entry) : Lists tree place member entry := by
  have among := List.mem_of_find?_eq_some found
  have named : entry.name = member := by simpa using List.find?_some found
  refine ⟨⟨entries, listed, among, ?_⟩, named⟩
  intro other isOther sameName
  simp only [listing] at listed
  split at listed
  · cases listed
  · exact Zip.eq_of_name_eq listed isOther among (sameName.trans named.symm)

theorem Lists.find?_eq (lists : Lists tree place member entry)
    (listed : listing tree place = .ok entries) :
    entries.find? (·.name = member) = some entry := by
  rcases lists.listed with ⟨others, listedOthers, among, alone⟩
  cases listed.symm.trans listedOthers
  rcases found : entries.find? (·.name = member) with _ | other
  · simp only [List.find?_eq_none, decide_eq_true_eq] at found
    exact absurd lists.named (found entry among)
  · have named : other.name = member := by simpa using List.find?_some found
    rw [found, alone other (List.mem_of_find?_eq_some found) named]

theorem refuses_or_opens (tree : FileTree) (place : Location) (member : String) :
    (∃ source, Refuses tree place member source) ∨
      ∃ entry start, Opens tree place member entry start := by
  rcases listed : listing tree place with source | entries
  · left
    exact ⟨source, .unlisted listed⟩
  rcases found : entries.find? (·.name = member) with _ | entry
  · left
    refine ⟨.memberNotFound, .absent listed ?_⟩
    simpa using found
  have lists := lists_of_find? listed found
  rcases opened : entry.openIn (imageAt tree place) with source | start
  · left
    exact ⟨source, .unopened lists opened⟩
  rcases isSafe : Zip.isSafeName member with _ | _
  · left
    exact ⟨.unsafeName, .unsafeName lists opened isSafe⟩
  · right
    exact ⟨entry, start, lists, opened, isSafe⟩

theorem listing_congr (same : second.get? place = first.get? place) :
    listing second place = listing first place := by
  simp only [listing, FileTree.readAt, same]

theorem Lists.congr (same : second.get? place = first.get? place)
    (lists : Lists first place member entry) : Lists second place member entry :=
  ⟨by rw [listing_congr same]; exact lists.listed, lists.named⟩

theorem imageAt_of_get? (same : second.get? place = first.get? place) :
    imageAt second place = imageAt first place := by
  apply imageAt_congr
  rw [FileTree.contentsAt?, FileTree.contentsAt?, same]

theorem Refuses.congr (same : second.get? place = first.get? place)
    (refuses : Refuses first place member source) : Refuses second place member source := by
  cases refuses with
  | unlisted listed =>
      apply Refuses.unlisted
      rw [listing_congr same, listed]
  | absent listed absent =>
      refine .absent ?_ absent
      rw [listing_congr same, listed]
  | unopened lists refused =>
      apply Refuses.unopened (lists.congr same)
      rw [imageAt_of_get? same, refused]
  | @unsafeName entry start lists opened isUnsafe =>
      refine @Refuses.unsafeName _ _ _ entry start (lists.congr same) ?_ isUnsafe
      rw [imageAt_of_get? same, opened]

theorem readRefusal_congr {env : Environment} (same : second.get? place = first.get? place) :
    readRefusal env second place = readRefusal env first place := by
  simp only [readRefusal, FileTree.modeAt?, same]

theorem Opens.congr (same : second.get? place = first.get? place)
    (opens : Opens first place member entry start) : Opens second place member entry start where
  lists := opens.lists.congr same
  opened := by rw [imageAt_of_get? same, opens.opened]
  isSafe := opens.isSafe

end Members

/-! ## Extracting a member -/

section Extract

variable {env : Environment} {archive directory : Path} {place : Location} {member : String}
  {entry : Zip.Entry} {start : Nat} {source : ZipError} {session : Session}

theorem extractMember_of_refuses
    (located : session.files.locate env.workingDirectory archive = .ok place)
    (granted : readRefusal env session.files place = none)
    (refuses : Refuses session.files place member source) :
    (extractMember env archive member directory).runOn session =
      (.error (.extraction archive member source), session) := by
  have opening := @openArchive_of_granted env archive place session
    (.extraction archive member) located granted
  cases refuses with
  | unlisted listed =>
      rw [listed] at opening
      simp only [extractMember, Task.runOn_bind, opening]
  | @absent entries listed absent =>
      rw [listed] at opening
      have missing : entries.find? (·.name = member) = none := by simpa using absent
      simp only [extractMember, Task.runOn_bind_of_ok opening, missing, Task.runOn_throw]
  | unopened lists refused =>
      rcases lists.listed with ⟨entries, listed, _⟩
      rw [listed] at opening
      simp only [extractMember, Task.runOn_bind_of_ok opening, lists.find?_eq listed,
        Task.runOn_bind, Task.runOn_look, refused, Except.mapError, Task.runOn_ofExcept]
  | @unsafeName entry start lists opened isUnsafe =>
      rcases lists.listed with ⟨entries, listed, _⟩
      rw [listed] at opening
      have notSafe : entry.safePath? = none := by
        simp [Zip.Entry.safePath?, lists.named, isUnsafe]
      simp only [extractMember, Task.runOn_bind_of_ok opening, lists.find?_eq listed,
        Task.runOn_bind, Task.runOn_look, opened, Except.mapError, Task.runOn_ofExcept, notSafe,
        Task.runOn_throw]

theorem extractMember_of_opens
    (located : session.files.locate env.workingDirectory archive = .ok place)
    (granted : readRefusal env session.files place = none)
    (opens : Opens session.files place member entry start) :
    (extractMember env archive member directory).runOn session =
      match (writeMember env place entry start (directory.join ⟨member⟩)).runOn session.files with
      | (.error failure, files) => (.error (.io failure), session.withFiles files)
      | (.ok (), files) => (.ok (directory.join ⟨member⟩), session.withFiles files) := by
  have opening := @openArchive_of_granted env archive place session
    (.extraction archive member) located granted
  rcases opens.lists.listed with ⟨entries, listed, _⟩
  rw [listed] at opening
  have safe : entry.safePath? = some ⟨member⟩ := by
    simp [Zip.Entry.safePath?, opens.lists.named, opens.isSafe]
  simp only [extractMember, Task.runOn_bind_of_ok opening, opens.lists.find?_eq listed,
    Task.runOn_bind, Task.runOn_look, opens.opened, Except.mapError, Task.runOn_ofExcept, safe,
    Task.runOn_onFiles]
  rcases (writeMember env place entry start (directory.join ⟨member⟩)).runOn session.files with
    ⟨failure | ⟨⟩, files⟩
  · rfl
  · rfl

end Extract

/-! ## Locating the distribution -/

/-- What extracting a member of an archive comes to. -/
inductive Extracts (env : Environment) (archive directory : Path) (place : Location)
    (member : String) (before after : Session) : Except SetupError Path → Prop where
  /-- The archive cannot be opened. Nothing has changed but the log. -/
  | unopened {fault} (refused : readRefusal env before.files place = some fault)
      (said : after = before.record env (extractEntry archive member))
      (untouched : before.files.Alike env.LogsAt after.files) :
      Extracts env archive directory place member before after (.error (.io (.system fault)))
  /-- The member cannot be extracted. Nothing has changed but the log. -/
  | refused {source} (granted : readRefusal env before.files place = none)
      (refuses : Refuses before.files place member source)
      (said : after = before.record env (extractEntry archive member))
      (untouched : before.files.Alike env.LogsAt after.files) :
      Extracts env archive directory place member before after
        (.error (.extraction archive member source))
  /-- A file operation has failed. Directories on the way may have been made, and if the file has
  been opened, it holds a beginning of the data that can be decoded. -/
  | stopped {entry start failure} (granted : readRefusal env before.files place = none)
      (opens : Opens before.files place member entry start)
      (leaves : ∀ location, ¬ env.LogsAt location →
        Leaves env.workingDirectory (directory.join ⟨member⟩)
          (some (entry.decoded (imageAt before.files place) start)) before.files after.files
          location) :
      Extracts env archive directory place member before after (.error (.io failure))
  /-- The member's data have been written, and only directories on the way are new besides. -/
  | extracted {entry start data location mode}
      (granted : readRefusal env before.files place = none)
      (opens : Opens before.files place member entry start)
      (delivered : entry.deliver (imageAt before.files place) start = ⟨data, none⟩)
      (located : after.files.locate env.workingDirectory (directory.join ⟨member⟩) = .ok location)
      (written : after.files.get? location = some (.file data mode))
      (kept : ¬ env.LogsAt location → mode = before.files.modeAt location)
      (others : ∀ other, ¬ env.LogsAt other → other ≠ location →
        Leaves env.workingDirectory (directory.join ⟨member⟩) none before.files after.files
          other) :
      Extracts env archive directory place member before after (.ok (directory.join ⟨member⟩))

section Locate

variable {env : Environment} {javaModule directory archive : Path} {distribution : Distribution}
  {session left : Session} {result : Except SetupError Path}

theorem locateArchive_of_isFile
    (file : session.files.isFile env.workingDirectory javaModule = true) :
    (locateArchive env javaModule distribution directory).runOn session =
      (extractMember env javaModule distribution.memberName directory).runOn
        (session.record env (extractEntry javaModule distribution.memberName)) := by
  simp only [locateArchive, Task.runOn_bind, Task.runOn_look, file, ↓reduceIte, Task.runOn_say]
  rfl

theorem locateArchive_of_not_isFile
    (notFile : session.files.isFile env.workingDirectory javaModule = false) :
    (locateArchive env javaModule distribution directory).runOn session =
      (.ok (javaModule.join ⟨distribution.memberName⟩), session) := by
  simp [locateArchive, Task.runOn_bind, notFile, expectedArchive_of_not_isFile notFile]

theorem extracts_of_opens {member : String} {place : Location} {entry : Zip.Entry} {start : Nat}
    {announced : Session} (alike : session.files.Alike env.LogsAt announced.files)
    (located : announced.files.locate env.workingDirectory archive = .ok place)
    (quiet : ¬ env.LogsAt place)
    (granted : readRefusal env session.files place = none)
    (opens : Opens session.files place member entry start)
    (run : (extractMember env archive member directory).runOn announced = (result, left))
    (apart : ¬ left.files.SameFile env.workingDirectory (directory.join ⟨member⟩) archive) :
    Extracts env archive directory place member session left result := by
  have same := alike.same place quiet
  have grantedThen := (readRefusal_congr same).trans granted
  rw [extractMember_of_opens located grantedThen (opens.congr same)] at run
  rcases wrote : (writeMember env place entry start (directory.join ⟨member⟩)).runOn
    announced.files with ⟨failure | ⟨⟩, files⟩
  · rw [wrote] at run
    cases run
    apply Extracts.stopped granted opens
    intro location elsewhere
    have leaves := writeMember_leaves wrote location
    rw [imageAt_of_get? same] at leaves
    exact leaves.of_alike alike elsewhere
  · rw [wrote] at run
    cases run
    rcases writeMember_written wrote with ⟨location, data, targets, written, delivered, others⟩
    have found : files.locate env.workingDirectory (directory.join ⟨member⟩) = .ok location :=
      targets.locate (by simp [written])
    have grows :=
      (writeMember_touches env announced.files place entry start (directory.join ⟨member⟩)).grows
    rw [wrote] at grows
    have elsewhere : place ≠ location := by
      rintro rfl
      exact apart ⟨place, data, _, found, grows.locate located, written⟩
    have decoded := delivered elsewhere
    rw [imageAt_of_get? same] at decoded
    refine .extracted granted opens decoded found written ?_ ?_
    · intro unlogged
      rw [FileTree.modeAt, FileTree.modeAt, alike.same location unlogged]
    · intro other unlogged different
      exact (others other different).of_alike alike unlogged

/-- If the Java module is no file, locating the archive of the distribution always succeeds and
changes nothing. If it is a file, it cannot be opened or the archive cannot be extracted, and
nothing changes but the log, or another file operation fails, or the archive is extracted: where it
is expected there is then a file with all the data of its member, and besides only directories on
the way are new. -/
theorem locateArchive_extracts (env : Environment) (javaModule directory : Path)
    (distribution : Distribution) (session left : Session) (result : Except SetupError Path)
    (run : (locateArchive env javaModule distribution directory).runOn session = (result, left)) :
    (session.files.isFile env.workingDirectory javaModule = false →
      result = .ok (javaModule.join ⟨distribution.memberName⟩) ∧ left = session) ∧
    (session.files.isFile env.workingDirectory javaModule = true →
      (∀ location, session.files.locate env.workingDirectory javaModule = .ok location →
        ¬ env.LogsAt location) →
      ¬ left.files.SameFile env.workingDirectory (directory.join ⟨distribution.memberName⟩)
        javaModule →
      ∃ place, session.files.locate env.workingDirectory javaModule = .ok place ∧
        Extracts env javaModule directory place distribution.memberName session left result) := by
  constructor
  · intro notFile
    rw [locateArchive_of_not_isFile notFile] at run
    cases run
    exact ⟨rfl, rfl⟩
  · intro file quiet apart
    rcases FileTree.isFile_iff.mp file with ⟨place, _, _, located, _⟩
    rw [locateArchive_of_isFile file] at run
    have alike := session.record_alike env (extractEntry javaModule distribution.memberName)
    have locatedThen := alike.grows.locate located
    have same := alike.same place (quiet place located)
    refine ⟨place, located, ?_⟩
    rcases granted : readRefusal env session.files place with _ | fault
    swap
    · have closed := @openArchive_of_refused env javaModule place _
        (.extraction javaModule distribution.memberName) _ locatedThen
        ((readRefusal_congr same).trans granted)
      rw [extractMember, Task.runOn_bind, closed] at run
      cases run
      exact .unopened granted rfl alike
    rcases refuses_or_opens session.files place distribution.memberName with
      ⟨source, refuses⟩ | ⟨entry, start, opens⟩
    · rw [extractMember_of_refuses locatedThen ((readRefusal_congr same).trans granted)
        (refuses.congr same)] at run
      cases run
      exact .refused granted refuses rfl alike
    · exact extracts_of_opens alike locatedThen (quiet place located) granted opens run apart

/-- A Java module with the members `other` and `lib/jpy.a/../b-1.zip`. -/
def moduleArchive : Bytes :=
  [80, 75, 3, 4, 20, 0, 0, 0, 0, 0, 0, 0, 33, 0, 68, 147, 15, 15, 1, 0, 0, 0, 1, 0, 0, 0, 5, 0, 0,
    0, 111, 116, 104, 101, 114, 111, 80, 75, 3, 4, 20, 0, 0, 0, 0, 0, 0, 0, 33, 0, 109, 72, 131,
    158, 2, 0, 0, 0, 2, 0, 0, 0, 20, 0, 0, 0, 108, 105, 98, 47, 106, 112, 121, 46, 97, 47, 46, 46,
    47, 98, 45, 49, 46, 122, 105, 112, 97, 98, 80, 75, 1, 2, 20, 3, 20, 0, 0, 0, 0, 0, 0, 0, 33, 0,
    68, 147, 15, 15, 1, 0, 0, 0, 1, 0, 0, 0, 5, 0, 0, 0, 0, 0, 0, 0, 0, 0, 0, 0, 128, 1, 0, 0, 0,
    0, 111, 116, 104, 101, 114, 80, 75, 1, 2, 20, 3, 20, 0, 0, 0, 0, 0, 0, 0, 33, 0, 109, 72, 131,
    158, 2, 0, 0, 0, 2, 0, 0, 0, 20, 0, 0, 0, 0, 0, 0, 0, 0, 0, 0, 0, 128, 1, 36, 0, 0, 0, 108,
    105, 98, 47, 106, 112, 121, 46, 97, 47, 46, 46, 47, 98, 45, 49, 46, 122, 105, 112, 80, 75, 5, 6,
    0, 0, 0, 0, 2, 0, 2, 0, 117, 0, 0, 0, 88, 0, 0, 0, 0, 0]

def moduleFiles : FileTree :=
  ⟨[(["M"], .file moduleArchive 0o644)]⟩

/-- The archive of a distribution whose platform leads over `..` is located in a Java module. -/
def moduleRun : Except SetupError Path × Session :=
  (locateArchive sampleEnvironment ⟨"M"⟩ ⟨"a/../b", "1"⟩ ⟨"d/"⟩).runOn (.start moduleFiles .debug)

theorem moduleRun_located :
    moduleRun.1 = .ok ⟨"d/lib/jpy.a/../b-1.zip"⟩ ∧
    moduleRun.2.files.get? ["b-1.zip", "lib", "d"] = some (.file [97, 98] 0o644) ∧
    moduleRun.2.files.locate [] ⟨"d/lib/jpy.a/../b-1.zip"⟩ ≠
      moduleRun.2.files.locate [] ⟨"M"⟩ := by
  decide +kernel

theorem locateArchive_extracts_sample :
    moduleRun.2.files.get? ["b-1.zip", "lib", "d"] = some (.file [97, 98] 0o644) ∧
    moduleFiles.isFile [] ⟨"M"⟩ = true ∧
    ¬ moduleRun.2.files.SameFile [] ⟨"d/lib/jpy.a/../b-1.zip"⟩ ⟨"M"⟩ ∧
    ∃ place, moduleFiles.locate [] ⟨"M"⟩ = .ok place ∧
      Extracts sampleEnvironment ⟨"M"⟩ ⟨"d/"⟩ place "lib/jpy.a/../b-1.zip"
        (.start moduleFiles .debug) moduleRun.2 (.ok ⟨"d/lib/jpy.a/../b-1.zip"⟩) := by
  rcases moduleRun_located with ⟨located, written, different⟩
  have file : moduleFiles.isFile [] ⟨"M"⟩ = true := by decide
  have apart : ¬ moduleRun.2.files.SameFile [] ⟨"d/lib/jpy.a/../b-1.zip"⟩ ⟨"M"⟩ := by
    intro same
    exact different same.locate_eq
  have run : moduleRun = (.ok ⟨"d/lib/jpy.a/../b-1.zip"⟩, moduleRun.2) := by
    rw [← located]
  have extracts := (locateArchive_extracts sampleEnvironment ⟨"M"⟩ ⟨"d/"⟩ ⟨"a/../b", "1"⟩
    (.start moduleFiles .debug) moduleRun.2 _ run).2 file
      (fun location _ => sampleEnvironment_logsNowhere location) apart
  exact ⟨written, file, apart, extracts⟩

/-- An archive that has been located is where it was expected before, and still is. -/
theorem expectedArchive_of_locateArchive (env : Environment) (javaModule directory archive : Path)
    (distribution : Distribution) (session left : Session)
    (run : (locateArchive env javaModule distribution directory).runOn session =
      (.ok archive, left)) :
    expectedArchive env session.files javaModule distribution directory = archive ∧
      expectedArchive env left.files javaModule distribution directory = archive := by
  rcases locateArchive_eq_ok run with ⟨file, rfl, _⟩ | ⟨notFile, rfl, rfl⟩
  · have grows := (@locateArchive_along env session.files (fun _ => True) directory
      (fun _ _ => trivial) javaModule distribution session).grows
    rw [run] at grows
    exact ⟨expectedArchive_of_isFile file, expectedArchive_of_isFile (grows.isFile file)⟩
  · exact ⟨expectedArchive_of_not_isFile notFile, expectedArchive_of_not_isFile notFile⟩

theorem expectedArchive_of_locateArchive_sample :
    moduleRun.1 = .ok ⟨"d/lib/jpy.a/../b-1.zip"⟩ ∧
    expectedArchive sampleEnvironment moduleFiles ⟨"M"⟩ ⟨"a/../b", "1"⟩ ⟨"d/"⟩ =
      ⟨"d/lib/jpy.a/../b-1.zip"⟩ ∧
    expectedArchive sampleEnvironment moduleRun.2.files ⟨"M"⟩ ⟨"a/../b", "1"⟩ ⟨"d/"⟩ =
      ⟨"d/lib/jpy.a/../b-1.zip"⟩ := by
  have run : moduleRun = (.ok ⟨"d/lib/jpy.a/../b-1.zip"⟩, moduleRun.2) := by
    rw [← moduleRun_located.1]
  exact ⟨moduleRun_located.1, expectedArchive_of_locateArchive sampleEnvironment ⟨"M"⟩ ⟨"d/"⟩
    ⟨"d/lib/jpy.a/../b-1.zip"⟩ ⟨"a/../b", "1"⟩ (.start moduleFiles .debug) moduleRun.2 run⟩

end Locate

end BridgeSetup.Unpack
