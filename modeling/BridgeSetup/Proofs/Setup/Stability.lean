import BridgeSetup.Proofs.Setup.Unpacking

/-!
# Unpacking twice

The second time an archive is unpacked, everything is there that the first time has made: the
directories are met, and each file is opened with the permission bits that it has got. Several
members may share a file, because of `..` in their names or because of links. The last member that
gives contents and the last one that gives permission bits are the same both times, so the second
time changes nothing (`unpackArchive_again`).

This presupposes that the archive still holds what it held, which is the case unless a member has
been written over it, and that the files can be opened with the permission bits that they have got.
-/

namespace BridgeSetup.Unpack

open FileTree (Overlay)

variable {env : Environment} {archive destination : Path} {session after again : Session}
  {outcome : Outcome}

theorem unpackListed_again (reopens : env.refusals.Reopens)
    (run : (unpackListed env archive destination).runOn session = (.ok outcome, after))
    (spared : ∀ path, MemberPath destination (membersOf env session archive) path →
      ¬ after.files.SameFile env.workingDirectory path archive)
    (quiet : ∀ location, session.files.locate env.workingDirectory archive = .ok location →
      ¬ env.LogsAt location)
    (resumed : after.files.Alike env.LogsAt again.files) :
    ∃ last, (unpackListed env archive destination).runOn again = (.ok outcome, last) ∧
      after.files.Alike env.LogsAt last.files := by
  rcases unpackListed_repeats reopens quiet run with ⟨place, overlay, located, repeats⟩
  have lays := repeats.lays
  have elsewhere := quiet place located
  have outside : overlay place = none :=
    lays.outside repeats.placed (.refl after.files) spared (lays.grows.locate located) elsewhere
  have same : ∀ location, place = location →
      again.files.fileAt? location = session.files.fileAt? location := by
    rintro location rfl
    rw [FileTree.fileAt?, resumed.same place elsewhere]
    exact lays.fileAt_of_none elsewhere outside
  rcases repeats.again again resumed.grows same with ⟨last, runAgain, relays⟩
  -- There is nothing before the overlay that is laid twice.
  rw [← Overlay.blank_andThen overlay] at lays
  exact ⟨last, runAgain, lays.alike_of_relays resumed relays⟩

/-- Unpacking an archive by force and then once more comes to the same both times, and the second
time leaves the files as they are, provided that no member has been written over the archive, and
that it is not refused to open files for writing that exist. -/
theorem unpackArchive_again (env : Environment) (archive marker destination : Path)
    (session after again : Session) (count : Nat) (reopens : env.refusals.Reopens)
    (run : (unpackArchive env archive marker destination true).runOn session =
      (.ok (.unpacked count), after))
    (spared : ∀ path, MemberPath destination (membersOf env session archive) path →
      ¬ after.files.SameFile env.workingDirectory path archive)
    (quiet : ∀ location, session.files.locate env.workingDirectory archive = .ok location →
      ¬ env.LogsAt location)
    (resumed : again.files = after.files) :
    ∃ last, (unpackArchive env archive marker destination true).runOn again =
        (.ok (.unpacked count), last) ∧
      again.files.Alike env.LogsAt last.files := by
  rcases unpackArchive_eq_ok run with ⟨_, there, listed⟩ | ⟨_, marked, _⟩
  swap
  · cases marked
  have alike : after.files.Alike env.LogsAt again.files := by
    rw [resumed]
    exact .refl after.files
  rcases unpackListed_again reopens listed spared quiet alike with ⟨last, listedAgain, unchanged⟩
  have grows : session.files.Grows after.files := by
    have spreads : session.files.Spreads _ env.LogsAt
      ((unpackArchive env archive marker destination true).runOn session).2.files :=
        unpackArchive_spreads
    rw [run] at spreads
    exact spreads.grows
  refine ⟨last, ?_, by rwa [resumed]⟩
  have needed : isNeeded env again.files marker true = true := rfl
  rw [unpackArchive_run, if_pos needed, if_pos, listedAgain]
  rw [resumed]
  exact grows.pathExists there

/-- A link `x` stands where two members of the archive `z` are to be written, so that both of them
are written to `w`. -/
def linkedFiles : FileTree :=
  ⟨[(["z"], .file overlapArchive 0o644), (["x"], .link ⟨"w"⟩)]⟩

def linkedRun : Except SetupError Outcome × Session :=
  (unpackArchive sampleEnvironment ⟨"z"⟩ ⟨"m"⟩ ⟨""⟩ true).runOn (.start linkedFiles .debug)

theorem unpackArchive_again_sample :
    sampleEnvironment.refusals.Reopens ∧ linkedRun.1 = .ok (.unpacked 2) ∧
    linkedRun.2.files.get? ["w"] = some (.file [98] 0o600) ∧
    (∀ path, MemberPath ⟨""⟩ (membersOf sampleEnvironment (.start linkedFiles .debug) ⟨"z"⟩) path →
      ¬ linkedRun.2.files.SameFile [] path ⟨"z"⟩) ∧
    ∃ last, (unpackArchive sampleEnvironment ⟨"z"⟩ ⟨"m"⟩ ⟨""⟩ true).runOn
        (.start linkedRun.2.files .debug) = (.ok (.unpacked 2), last) ∧
      linkedRun.2.files.Alike sampleEnvironment.LogsAt last.files := by
  have runs : linkedRun.1 = .ok (.unpacked 2) ∧
      linkedRun.2.files.get? ["w"] = some (.file [98] 0o600) ∧
      ∀ member ∈ membersOf sampleEnvironment (.start linkedFiles .debug) ⟨"z"⟩,
        linkedRun.2.files.locate [] ((⟨""⟩ : Path).join ⟨member.name⟩) ≠
          linkedRun.2.files.locate [] ⟨"z"⟩ := by
    decide +kernel
  rcases runs with ⟨unpacked, written, apart⟩
  have spared : ∀ path,
      MemberPath ⟨""⟩ (membersOf sampleEnvironment (.start linkedFiles .debug) ⟨"z"⟩) path →
        ¬ linkedRun.2.files.SameFile [] path ⟨"z"⟩ := by
    rintro path ⟨member, among, relative, safe, rfl⟩ same
    rw [eq_of_safePath? safe] at same
    exact apart member among same.locate_eq
  have run : linkedRun = (.ok (.unpacked 2), linkedRun.2) := by
    rw [← unpacked]
  have again := unpackArchive_again sampleEnvironment ⟨"z"⟩ ⟨"m"⟩ ⟨""⟩ (.start linkedFiles .debug)
    linkedRun.2 (.start linkedRun.2.files .debug) 2 sampleEnvironment_reopens run spared
    (fun location _ => sampleEnvironment_logsNowhere location) (Session.start_files _ _)
  rw [Session.start_files] at again
  exact ⟨sampleEnvironment_reopens, unpacked, written, spared, again⟩

end BridgeSetup.Unpack
