import BridgeSetup.Proofs.Setup.Members

/-!
# Unpacking and the marker

The marker is not written by the unpacker as such, but nothing keeps a member from having
the marker's path. What the unpacker brings into being lies on the ways of the members'
paths (`unpackArchive_spreads`), and when it succeeds everything on these ways exists
(`present_of_unpackEntries`). Together they tell exactly when the marker is there afterwards.
-/

namespace BridgeSetup.Unpack

/-- The members of an archive at the time at which it is opened for unpacking. -/
def membersOf (env : Environment) (session : Session) (archive : Path) : List Zip.Entry :=
  listedIn env (session.record env (unzipEntry archive)).files archive

/-- The path of a member with a safe name, below the destination. -/
def MemberPath (destination : Path) (members : List Zip.Entry) (path : Path) : Prop :=
  ∃ member ∈ members, ∃ relative, member.safePath? = some relative ∧
    path = destination.join relative

variable {env : Environment} {archive marker destination : Path} {force : Bool}
  {session : Session}

theorem unpackListed_spreads :
    session.files.Spreads
      (session.files.OnWays env.workingDirectory
        (MemberPath destination (membersOf env session archive))) env.LogsAt
      ((unpackListed env archive destination).runOn session).2.files := by
  have alike := session.record_alike env (unzipEntry archive)
  rw [unpackListed, Task.runOn_bind_of_ok (said_unzip env archive session)]
  rcases openArchive_run env (.unpack archive) archive
      (session.record env (unzipEntry archive)) with
    ⟨error, failed⟩ | ⟨location, bytes, entries, opens, contents, listed, opened⟩
  · rw [Task.runOn_bind, failed]
    exact .of_alike alike
  · have members : membersOf env session archive = entries :=
      listedIn_eq opens contents listed
    have unpacked : Task.Keeps (Along env session.files (MemberPath destination entries))
        (unpackEntries env (.unpack archive) location destination entries) :=
      unpackEntries_along fun member among relative safe => ⟨member, among, relative, safe, rfl⟩
    rw [Task.runOn_bind_of_ok opened, members]
    refine (FileTree.Spreads.of_alike alike).trans ((Task.Keeps.bind Along.chains unpacked ?_
      (session.record env (unzipEntry archive))).spreads alike.grows)
    intro count
    exact .bind Along.chains (.say _ _) fun _ => .pure Along.chains _

/-- Whatever comes of unpacking an archive, it changes nothing but places on the ways of the
members' paths, and what the log holds. -/
theorem unpackArchive_spreads :
    session.files.Spreads
      (session.files.OnWays env.workingDirectory
        (MemberPath destination (membersOf env session archive))) env.LogsAt
      ((unpackArchive env archive marker destination force).runOn session).2.files := by
  rw [unpackArchive_run]
  split
  · split
    · exact unpackListed_spreads
    · exact .refl session.files
  · exact .of_alike (session.record_alike env _)

/-- Where everything new on the members' ways is off the marker's way, the marker is still
missing afterwards. -/
theorem pathExists_of_apart
    (absent : session.files.pathExists env.workingDirectory marker = false)
    (apart : ∀ location, session.files.OnWay env.workingDirectory marker location →
      session.files.OnWays env.workingDirectory
        (MemberPath destination (membersOf env session archive)) location →
      session.files.get? location ≠ none) :
    (((unpackArchive env archive marker destination force).runOn session).2.files).pathExists
      env.workingDirectory marker = false := by
  have spreads : session.files.Spreads _ env.LogsAt
      ((unpackArchive env archive marker destination force).runOn session).2.files :=
    unpackArchive_spreads
  by_contra there
  simp only [Bool.not_eq_false] at there
  rcases FileTree.pathExists_iff.mp there with ⟨last, located, present⟩
  rcases FileTree.locate_eq_ok_iff.mp located with ⟨checked, used, bound, leads⟩
  have old : ∀ place left,
      ((unpackArchive env archive marker destination force).runOn session).2.files.Reaches
        (marker.startFrom env.workingDirectory) marker.segments place left →
      ((unpackArchive env archive marker destination force).runOn session).2.files.get? place ≠
        none → session.files.get? place ≠ none := by
    intro place left reaches fresh
    by_cases onWays : session.files.OnWays env.workingDirectory
        (MemberPath destination (membersOf env session archive)) place
    · exact apart place ⟨left, reaches.ungrow spreads.grows⟩ onWays
    · rwa [ne_eq, ← FileTree.shapeAt_eq_none, ← spreads.shape place onWays,
        FileTree.shapeAt_eq_none]
  have earlier := leads.ungrow spreads.grows old
  have thereBefore : session.files.pathExists env.workingDirectory marker = true := by
    refine FileTree.pathExists_iff.mpr ⟨last, ?_, old last [] leads.reaches present⟩
    exact FileTree.locate_eq_ok_iff.mpr ⟨checked, used, bound, earlier⟩
  rw [absent] at thereBefore
  cases thereBefore

/-- When members have been unpacked, everything on the ways of their paths exists. -/
theorem present_of_unpackEntries {wrap : ZipError → SetupError} {place : Location}
    {entries : List Zip.Entry} {before after : Session} {count : Nat}
    (run : (unpackEntries env wrap place destination entries).runOn before = (.ok count, after)) :
    before.files.Grows after.files ∧
      ∀ path, MemberPath destination entries path →
        after.files.pathExists env.workingDirectory path = true := by
  induction entries generalizing before count with
  | nil =>
      cases run
      refine ⟨.refl _, ?_⟩
      rintro path ⟨member, among, _⟩
      cases among
  | cons entry rest ih =>
      rcases Task.runOn_bind_eq_ok run with ⟨written, middle, first, others⟩
      rcases Task.runOn_bind_eq_ok others with ⟨number, last, second, ended⟩
      cases ended
      have handled := handled_of_unpackEntry first
      rcases ih second with ⟨grows, found⟩
      refine ⟨handled.grows.trans grows, ?_⟩
      rintro path ⟨member, among, relative, safe, rfl⟩
      rcases List.mem_cons.mp among with rfl | later
      · exact grows.pathExists (handled.pathExists safe)
      · exact found _ ⟨member, later, relative, safe, rfl⟩

/-- When members have been unpacked, there is something at a location exactly if there was
before, or the location lies on the way of a member's path. -/
theorem present_iff_of_unpackEntries {wrap : ZipError → SetupError} {place : Location}
    {entries : List Zip.Entry} {before after : Session} {count : Nat}
    (run : (unpackEntries env wrap place destination entries).runOn before = (.ok count, after))
    (location : Location) :
    after.files.get? location ≠ none ↔
      before.files.get? location ≠ none ∨
        before.files.OnWays env.workingDirectory (MemberPath destination entries) location := by
  have unpacked : Task.Keeps (Along env before.files (MemberPath destination entries))
      (unpackEntries env wrap place destination entries) :=
    unpackEntries_along fun member among relative safe => ⟨member, among, relative, safe, rfl⟩
  have spreads := (unpacked before).spreads (.refl before.files)
  rw [run] at spreads
  constructor
  · intro present
    by_cases onWays : before.files.OnWays env.workingDirectory (MemberPath destination entries)
        location
    · exact Or.inr onWays
    · left
      rwa [ne_eq, ← FileTree.shapeAt_eq_none, ← spreads.shape location onWays,
        FileTree.shapeAt_eq_none]
  · rintro (present | ⟨path, isMember, onWay⟩)
    · exact spreads.grows.present present
    · exact FileTree.present_of_onWay ((present_of_unpackEntries run).2 path isMember)
        (spreads.grows.onWay_iff.mpr onWay)

/-- The same for members that are unpacked after something has been logged. -/
theorem present_iff_of_recorded {wrap : ZipError → SetupError} {place : Location}
    {entries : List Zip.Entry} {entry : Entry} {after : Session} {count : Nat}
    (run : (unpackEntries env wrap place destination entries).runOn (session.record env entry) =
      (.ok count, after)) (location : Location) :
    after.files.get? location ≠ none ↔
      session.files.get? location ≠ none ∨
        session.files.OnWays env.workingDirectory (MemberPath destination entries) location := by
  have alike := session.record_alike env entry
  rw [present_iff_of_unpackEntries run, alike.present_iff]
  simp only [FileTree.OnWays, alike.grows.onWay_iff]

/-- When an archive has been unpacked, there is something at a location exactly if there was
before, or the location lies on the way of a member's path. -/
theorem present_iff_of_unpacked {count : Nat} {after : Session}
    (run : (unpackArchive env archive marker destination force).runOn session =
      (.ok (.unpacked count), after)) (location : Location) :
    after.files.get? location ≠ none ↔
      session.files.get? location ≠ none ∨
        session.files.OnWays env.workingDirectory
          (MemberPath destination (membersOf env session archive)) location := by
  rcases unpackArchive_eq_ok run with ⟨_, _, listed⟩ | ⟨_, marked, _⟩
  · rcases unpackListed_ok listed with
      ⟨place, bytes, entries, number, middle, opens, contents, read, unpacked, _, rfl⟩
    have members : membersOf env session archive = entries := listedIn_eq opens contents read
    rw [members, (middle.record_alike env (unpackedEntry number destination)).present_iff]
    exact present_iff_of_recorded unpacked location
  · cases marked

/-! ## Unpacking that stops at a member -/

/-- Unpacking an archive stops with an error at a member, after all those before it have been
handled. -/
structure StopsAt (env : Environment) (archive destination : Path) (session : Session)
    (done : List Zip.Entry) (entry : Zip.Entry) (middle after : Session) : Prop where
  listed : ∃ rest, membersOf env session archive = done ++ entry :: rest
  handled : ∃ place count error,
    (session.record env (unzipEntry archive)).files.locate env.workingDirectory archive =
      .ok place ∧
    (unpackEntries env (.unpack archive) place destination done).runOn
      (session.record env (unzipEntry archive)) = (.ok count, middle) ∧
    (unpackEntry env (.unpack archive) place destination entry).runOn middle =
      (.error error, after)

theorem unpackEntries_eq_error {wrap : ZipError → SetupError} {place : Location}
    {entries : List Zip.Entry} {before after : Session} {error : SetupError}
    (run : (unpackEntries env wrap place destination entries).runOn before =
      (.error error, after)) :
    ∃ done entry rest count middle, entries = done ++ entry :: rest ∧
      (unpackEntries env wrap place destination done).runOn before = (.ok count, middle) ∧
      (unpackEntry env wrap place destination entry).runOn middle = (.error error, after) := by
  induction entries generalizing before with
  | nil => cases run
  | cons entry rest ih =>
      rcases Task.runOn_bind_eq_error run with failed | ⟨written, middle, first, run⟩
      · exact ⟨[], entry, rest, 0, before, rfl, rfl, failed⟩
      rcases Task.runOn_bind_eq_error run with failed | ⟨_, _, _, ended⟩
      · rcases ih failed with ⟨done, stopped, others, count, last, rfl, handled, failure⟩
        refine ⟨entry :: done, stopped, others, count + written.toNat, last, rfl, ?_, failure⟩
        rw [unpackEntries, Task.runOn_bind_of_ok first, Task.runOn_bind_of_ok handled,
          Task.runOn_pure]
      · cases ended

/-- Unpacking that stops with an error has changed nothing but the log, or stops at a member. -/
theorem unpackArchive_eq_error {after : Session} {error : SetupError}
    (run : (unpackArchive env archive marker destination force).runOn session =
      (.error error, after)) :
    session.files.Alike env.LogsAt after.files ∨
      ∃ done entry middle, StopsAt env archive destination session done entry middle after := by
  rw [unpackArchive_run] at run
  split at run
  swap
  · cases run
  split at run
  swap
  · cases run
    exact Or.inl (.refl session.files)
  rw [unpackListed, Task.runOn_bind_of_ok (said_unzip env archive session)] at run
  rcases openArchive_run env (.unpack archive) archive
      (session.record env (unzipEntry archive)) with
    ⟨failure, failed⟩ | ⟨place, bytes, entries, opens, contents, read, opened⟩
  · rw [Task.runOn_bind, failed] at run
    cases run
    exact Or.inl (session.record_alike env _)
  have members : membersOf env session archive = entries := listedIn_eq opens contents read
  rw [Task.runOn_bind_of_ok opened] at run
  rcases Task.runOn_bind_eq_error run with failed | ⟨_, _, _, ended⟩
  · rcases unpackEntries_eq_error failed with
      ⟨done, entry, rest, count, middle, whole, handled, stopped⟩
    exact Or.inr ⟨done, entry, middle, ⟨rest, members.trans whole⟩,
      ⟨place, count, error, FileTree.locate_of_openForReading opens, handled, stopped⟩⟩
  · cases ended

/-- When unpacking has stopped at a member, there is something at a location exactly if there
was before, or the location lies on the way of a member that had been handled, or the member
at which it stopped has brought it into being. -/
theorem StopsAt.present_iff {done : List Zip.Entry} {entry : Zip.Entry} {middle after : Session}
    (stops : StopsAt env archive destination session done entry middle after)
    (location : Location) :
    after.files.get? location ≠ none ↔
      session.files.get? location ≠ none ∨
        session.files.OnWays env.workingDirectory (MemberPath destination done) location ∨
        middle.files.get? location = none ∧ after.files.get? location ≠ none := by
  rcases stops.handled with ⟨place, count, error, _, handled, stopped⟩
  have grows : middle.files.Grows after.files := by
    have along : Task.Keeps (Along env middle.files fun _ => True)
        (unpackEntry env (.unpack archive) place destination entry) :=
      unpackEntry_along fun _ _ => trivial
    have grown := (along middle).spreads (.refl middle.files)
    rw [stopped] at grown
    exact grown.grows
  rw [← or_assoc, ← present_iff_of_recorded handled location]
  constructor
  · intro present
    by_cases fresh : middle.files.get? location = none
    · exact Or.inr ⟨fresh, present⟩
    · exact Or.inl fresh
  · rintro (present | ⟨_, present⟩)
    · exact grows.present present
    · exact present

/-! ## The marker -/

theorem isNeeded_eq_false_iff {tree : FileTree} {location : Location}
    (targets : tree.Targets env.workingDirectory marker location) :
    isNeeded env tree marker false = false ↔ tree.get? location ≠ none := by
  rw [← targets.pathExists_iff]
  simp [isNeeded]

/-- Whether unpacking brings the marker into being. It does not, whatever comes of it, when
nothing new lies both on the marker's way and on the way of a member. When the archive has
been unpacked, the marker is there exactly if the place of its path was taken before, or
lies on the way of a member. When unpacking has stopped with an error, it is there exactly if
the place was taken before, lies on the way of a member that had been handled by then, or was
filled by the member at which unpacking stopped. -/
theorem marker_after_unpackArchive (env : Environment) (archive marker destination : Path)
    (force : Bool) (session : Session)
    (absent : session.files.pathExists env.workingDirectory marker = false) :
    ((∀ location, session.files.OnWay env.workingDirectory marker location →
        session.files.OnWays env.workingDirectory
          (MemberPath destination (membersOf env session archive)) location →
        session.files.get? location ≠ none) →
      isNeeded env
        ((unpackArchive env archive marker destination force).runOn session).2.files marker
        false = true) ∧
    (∀ count after location,
      (unpackArchive env archive marker destination force).runOn session =
        (.ok (.unpacked count), after) →
      after.files.Targets env.workingDirectory marker location →
      (isNeeded env after.files marker false = false ↔
        session.files.get? location ≠ none ∨
          session.files.OnWays env.workingDirectory
            (MemberPath destination (membersOf env session archive)) location)) ∧
    (∀ error after location,
      (unpackArchive env archive marker destination force).runOn session =
        (.error error, after) →
      after.files.Targets env.workingDirectory marker location →
      (isNeeded env after.files marker false = false ↔
        session.files.get? location ≠ none ∨
          ∃ done entry middle, StopsAt env archive destination session done entry middle after ∧
            (session.files.OnWays env.workingDirectory (MemberPath destination done) location ∨
              middle.files.get? location = none ∧ after.files.get? location ≠ none))) := by
  refine ⟨?_, ?_, ?_⟩
  · intro apart
    have missing : ((unpackArchive env archive marker destination force).runOn
        session).2.files.pathExists env.workingDirectory marker = false :=
      pathExists_of_apart absent apart
    simp [isNeeded, missing]
  · intro count after location run targets
    rw [isNeeded_eq_false_iff targets, present_iff_of_unpacked run]
  · intro error after location run targets
    rw [isNeeded_eq_false_iff targets]
    constructor
    · intro present
      rcases unpackArchive_eq_error run with alike | ⟨done, entry, middle, stops⟩
      · exact Or.inl (alike.present_iff.mp present)
      · rcases (stops.present_iff location).mp present with old | made
        · exact Or.inl old
        · exact Or.inr ⟨done, entry, middle, stops, made⟩
    · rintro (old | ⟨done, entry, middle, stops, made⟩)
      · have spreads : session.files.Spreads _ env.LogsAt
            ((unpackArchive env archive marker destination force).runOn session).2.files :=
          unpackArchive_spreads
        rw [run] at spreads
        exact spreads.grows.present old
      · exact (stops.present_iff location).mpr (Or.inr made)

/-- A working directory with an archive that has one member, `m`. -/
def sampleFiles : FileTree :=
  ⟨[(["z"], .file sampleArchive 0o644)]⟩

/-- A member whose name is that of the marker brings the marker into being. -/
theorem unpackArchive_makes_marker :
    isNeeded sampleEnvironment sampleFiles ⟨"m"⟩ false = true ∧
      isNeeded sampleEnvironment
        ((unpackArchive sampleEnvironment ⟨"z"⟩ ⟨"m"⟩ ⟨""⟩ false).runOn
          (.start sampleFiles .debug)).2.files ⟨"m"⟩ false = false := by
  decide +kernel

theorem marker_after_unpackArchive_sample :
    sampleFiles.pathExists [] ⟨"m"⟩ = false ∧
    ((∀ location, sampleFiles.OnWay [] ⟨"m"⟩ location →
        sampleFiles.OnWays []
          (MemberPath ⟨""⟩ (membersOf sampleEnvironment (.start sampleFiles .debug) ⟨"z"⟩))
          location → sampleFiles.get? location ≠ none) →
      isNeeded sampleEnvironment
        ((unpackArchive sampleEnvironment ⟨"z"⟩ ⟨"m"⟩ ⟨""⟩ false).runOn
          (.start sampleFiles .debug)).2.files ⟨"m"⟩ false = true) ∧
    (∀ count after location,
      (unpackArchive sampleEnvironment ⟨"z"⟩ ⟨"m"⟩ ⟨""⟩ false).runOn
        (.start sampleFiles .debug) = (.ok (.unpacked count), after) →
      after.files.Targets [] ⟨"m"⟩ location →
      (isNeeded sampleEnvironment after.files ⟨"m"⟩ false = false ↔
        sampleFiles.get? location ≠ none ∨
          sampleFiles.OnWays []
            (MemberPath ⟨""⟩ (membersOf sampleEnvironment (.start sampleFiles .debug) ⟨"z"⟩))
            location)) ∧
    (∀ error after location,
      (unpackArchive sampleEnvironment ⟨"z"⟩ ⟨"m"⟩ ⟨""⟩ false).runOn
        (.start sampleFiles .debug) = (.error error, after) →
      after.files.Targets [] ⟨"m"⟩ location →
      (isNeeded sampleEnvironment after.files ⟨"m"⟩ false = false ↔
        sampleFiles.get? location ≠ none ∨
          ∃ done entry middle,
            StopsAt sampleEnvironment ⟨"z"⟩ ⟨""⟩ (.start sampleFiles .debug) done entry middle
              after ∧
            (sampleFiles.OnWays [] (MemberPath ⟨""⟩ done) location ∨
              middle.files.get? location = none ∧ after.files.get? location ≠ none))) :=
  ⟨by decide, marker_after_unpackArchive sampleEnvironment ⟨"z"⟩ ⟨"m"⟩ ⟨""⟩ false
    (.start sampleFiles .debug) (by decide)⟩

end BridgeSetup.Unpack
