import BridgeSetup.Proofs.Run.Agreement
import BridgeSetup.Proofs.Setup.Repetition
import BridgeSetup.Proofs.Setup.Rewriting

/-!
# Resuming after a failed configuration

A run that has prepared the configuration of the bridge and then failed, because the installer
failed, leaves an installation that is unpacked but not configured. The next run resumes it:
with an installer that works it comes to what it would have come to from the start
(`run_resumed`).

The next run repeats the preparation on the files that the first one left. If a file that was
unpacked happens to be the marker, it skips the unpacking; otherwise it unpacks the same
archive again. Either way the files stay as they are (`prepare_again`), provided that nothing
that is written is the archive or the Java module, which are read.
-/

namespace BridgeSetup

/-- What an installer does depends on its arguments and on the files, but not on the log. -/
structure Installer.BlindToLog (env : Environment) (installer : Installer) : Prop where
  load : ∀ module first second, first.Alike env.LogsAt second →
    (installer.load module first).Alike env.LogsAt (installer.load module second)
  write : ∀ {module tree writer}, (installer.load module tree).result = .ok writer →
    ∀ request first second, first.Alike env.LogsAt second →
      (writer.write request first).Alike env.LogsAt (writer.write request second)

/-- An installer that fails does so without having touched the files. -/
structure Installer.FailsIdly (installer : Installer) (module : Path) : Prop where
  load : ∀ tree, (installer.load module tree).files = tree
  write : ∀ {tree writer}, (installer.load module tree).result = .ok writer →
    ∀ request before error, (writer.write request before).result = .error error →
      (writer.write request before).files = before

variable {env : Environment} {options : SetupOptions} {runtime : Runtime}
  {installer : Installer} {session left : Session}

/-! ## Configuring -/

namespace Configure

variable {paths : InstallPaths} {archive : Path}

theorem resolveJavaHome_blind {ε : Type} (requested : Option Path) (installDir : Path) :
    Task.Blind env (resolveJavaHome env requested installDir : Task ε (Option Path)) := by
  unfold resolveJavaHome
  split
  · exact .pure _
  · refine .bind (.look fun _ _ alike => alike.pathExists_eq _ _) ?_
    intro bundled
    split
    · exact .bind (.say _ _) fun _ => .pure _
    · exact .bind (.say _ _) fun _ => .pure _

theorem handOver_blind (blind : installer.BlindToLog env) :
    Task.Blind env (handOver env paths archive options installer) := by
  unfold handOver
  refine .bind (.note _) ?_
  intro noted
  refine .bind_of_ok (.ofReply _ (blind.load _)) ?_
  intro session writer left loaded
  have reply := (Task.runOn_ofReply_eq_ok loaded).1
  refine .bind (resolveJavaHome_blind _ _) ?_
  intro javaHome
  refine .bind (.note _) ?_
  intro asked
  exact .bind (.sayAll _) fun _ => .ofReply _ (blind.write reply _)

theorem configure_blind (blind : installer.BlindToLog env) :
    Task.Blind env (configure env paths archive options installer) := by
  intro first second alike
  have configured : paths.isConfigured second.files env.workingDirectory =
      paths.isConfigured first.files env.workingDirectory := by
    simp only [InstallPaths.isConfigured, alike.pathExists_eq]
  rw [configure_run, configure_run, configured]
  split
  · have said : Task.Blind env (do
        Task.say env skipEntry.level skipEntry.message
        return SetupError.successStatus : Task SetupError Int) :=
      .bind (.say _ _) fun _ => .pure _
    exact said first second alike
  · exact handOver_blind blind first second alike

theorem handOver_untouched {error : SetupError}
    (idle : installer.FailsIdly paths.installerModule)
    (run : (handOver env paths archive options installer).runOn session = (.error error, left)) :
    session.files.Alike env.LogsAt left.files := by
  have afterIdle {α : Type} {before : Session} {reply : Reply α} {files : FileTree}
      (untouched : reply.files = files) :
      files.Alike env.LogsAt (before.afterReply env reply).files := by
    rw [← untouched]
    exact before.afterReply_alike env reply
  rcases Task.runOn_bind_eq_error run with failed | ⟨_, noted, note, run⟩
  · cases failed
  have files : noted.files = session.files := by
    cases note
    rfl
  rw [← files]
  rcases Task.runOn_bind_eq_error run with failed | ⟨writer, loaded, load, run⟩
  · rw [(Task.runOn_ofReply_eq_error failed).2]
    exact afterIdle (idle.load noted.files)
  rcases Task.runOn_ofReply_eq_ok load with ⟨result, after⟩
  have loading : noted.files.Alike env.LogsAt loaded.files := by
    rw [after]
    exact afterIdle (idle.load noted.files)
  refine loading.trans ?_
  rcases @resolveJavaHome_run SetupError env paths options loaded with ⟨entries, resolved⟩
  rw [Task.runOn_bind_of_ok resolved] at run
  refine (loaded.recordAll_alike env entries).trans ?_
  rcases Task.runOn_bind_eq_error run with failed | ⟨_, asked, ask, run⟩
  · cases failed
  have asking : asked.files = (loaded.recordAll env entries).files := by
    cases ask
    rfl
  rw [← asking]
  rcases Task.runOn_bind_eq_error run with failed | ⟨_, announced, announce, run⟩
  · cases failed
  have announcing : asked.files.Alike env.LogsAt announced.files := by
    cases announce
    exact asked.recordAll_alike env _
  refine announcing.trans ?_
  rcases Task.runOn_ofReply_eq_error run with ⟨⟨failure, failed⟩, rfl⟩
  exact afterIdle (idle.write result _ _ failure failed)

end Configure

/-! ## Preparing again -/

namespace Setup

open FileTree (Lays Overlay Relays)

/-- What a run reads is not among what it writes: neither the default configuration nor a
member, nor the archive that is extracted, is the Java module, neither the default
configuration nor a member is the archive, and neither of the two is the log. What has been
written can be opened again. -/
structure Undisturbed (env : Environment) (options : SetupOptions) (runtime : Runtime)
    (archive : Path) (members : List Zip.Entry) (tree : FileTree) : Prop where
  sparesModule : ∀ path, path = (pathsFor options runtime).defaultConfig ∨
    path = options.installDir.join ⟨(pathsFor options runtime).distribution.memberName⟩ ∨
    Unpack.MemberPath options.installDir members path →
      ¬ tree.SameFile env.workingDirectory path options.javaModule
  sparesArchive : ∀ path, path = (pathsFor options runtime).defaultConfig ∨
    Unpack.MemberPath options.installDir members path →
      ¬ tree.SameFile env.workingDirectory path archive
  logsElsewhere : ∀ location, env.LogsAt location →
    tree.locate env.workingDirectory options.javaModule ≠ .ok location ∧
      tree.locate env.workingDirectory archive ≠ .ok location
  reopens : env.refusals.Reopens

/-- What comes to be the same file in a tree is the same file in every tree that has grown from
that, so it is enough to look at the last one. -/
theorem Undisturbed.of_grows {archive : Path} {members : List Zip.Entry} {before after : FileTree}
    (undisturbed : Undisturbed env options runtime archive members after)
    (grows : before.Grows after) : Undisturbed env options runtime archive members before where
  sparesModule path written same := undisturbed.sparesModule path written (same.grow grows)
  sparesArchive path written same := undisturbed.sparesArchive path written (same.grow grows)
  logsElsewhere location logs :=
    ⟨fun named => (undisturbed.logsElsewhere location logs).1 (grows.locate named),
      fun named => (undisturbed.logsElsewhere location logs).2 (grows.locate named)⟩
  reopens := undisturbed.reopens

/-- When the default configuration has been provided, it can be provided again, and is then
written again only if that is forced. -/
theorem provideDefaultConfig_again {paths : InstallPaths} (reopens : env.refusals.Reopens)
    (run : (provideDefaultConfig env options paths).runOn session = (.ok (), left)) :
    ∃ early redone : Overlay,
      Lays env.LogsAt (early.andThen redone) session.files left.files ∧
      (∀ location, early.andThen redone location ≠ none → ∃ path, path = paths.defaultConfig ∧
        left.files.Targets env.workingDirectory path location) ∧
      ∀ later : Session, left.files.Grows later.files →
        ∃ last, (provideDefaultConfig env options paths).runOn later = (.ok (), last) ∧
          Relays env.LogsAt redone later.files last.files := by
  rcases provideDefaultConfig_ok run with
    ⟨unforced, there, rfl⟩ | ⟨location, targets, writable, fits, rfl⟩
  · refine ⟨.blank, .blank, .of_alike (.refl left.files), fun _ covered => absurd rfl covered, ?_⟩
    intro later grows
    exact ⟨later, provideDefaultConfig_of_present unforced (grows.pathExists there),
      .of_alike (.refl later.files)⟩
  have free := writable.free
  let patch := defaultConfigPatch options
  let configured := session.withFiles (session.files.patchAt location patch)
  have recorded := configured.record_alike env (wroteEntry paths)
  have wrote : Lays env.LogsAt (.single location patch) session.files
      (configured.record env (wroteEntry paths)).files :=
    (targets.lays free patch).trans (.of_alike recorded)
  have placed : ∀ other, Overlay.single location patch other ≠ none →
      ∃ path, path = paths.defaultConfig ∧
        (configured.record env (wroteEntry paths)).files.Targets env.workingDirectory path
          other := by
    intro other covered
    cases Overlay.eq_of_single covered
    exact ⟨_, rfl, targets.grow wrote.grows⟩
  rcases forced : options.force with _ | _
  · refine ⟨.single location patch, .blank, wrote, placed, ?_⟩
    intro later grows
    have there := recorded.grows.pathExists (targets.pathExists_patchAt free patch)
    exact ⟨later, provideDefaultConfig_of_present forced (grows.pathExists there),
      .of_alike (.refl later.files)⟩
  · rw [← Overlay.blank_andThen (.single location patch)] at wrote placed
    refine ⟨.blank, .single location patch, wrote, placed, ?_⟩
    intro later grows
    rcases targets.again reopens free (recorded.grows.trans grows) with
      ⟨targetsLater, writableLater, relays⟩
    have recordedLater := (later.withFiles (later.files.patchAt location patch)).record_alike env
      (wroteEntry paths)
    exact ⟨_, provideDefaultConfig_of_targets targetsLater writableLater fits (Or.inl forced),
      (relays env.LogsAt patch).trans (.of_alike recordedLater)⟩

/-- Where the archive is expected after a preparation is where it was then. -/
theorem expectedArchive_of_prepare {archive : Path}
    (run : (prepare env options runtime).runOn session = (.ok archive, left)) {later : FileTree}
    (alike : left.files.Alike env.LogsAt later) :
    Unpack.expectedArchive env later options.javaModule (pathsFor options runtime).distribution
      options.installDir = archive := by
  rcases prepare_eq_ok run with
    ⟨provided, located, outcome, _, _, find, unpack, foundGrown, unpackedGrown⟩
  rw [findArchive_run] at find
  split at find
  · next needed =>
      rcases Unpack.locateArchive_eq_ok find with ⟨file, rfl, _⟩ | ⟨_, rfl, rfl⟩
      · have grows := foundGrown.trans (unpackedGrown.trans alike.grows)
        exact Unpack.expectedArchive_of_isFile (grows.isFile file)
      · rcases Unpack.unpackArchive_eq_ok unpack with ⟨_, there, _⟩ | ⟨unpacked, _, _⟩
        · exact Unpack.expectedArchive_of_not_isFile
            (Unpack.not_isFile_of_archive (unpackedGrown.trans alike.grows) there)
        · cases needed.symm.trans unpacked
  · next unpacked =>
      cases find
      rcases Unpack.unpackArchive_eq_ok unpack with ⟨needed, _, _⟩ | ⟨_, _, logged⟩
      · exact absurd needed unpacked
      · have kind := (logged.trans alike).isFile_eq env.workingDirectory options.javaModule
        simp only [Unpack.expectedArchive, kind]
        rfl

/-- A preparation that has unpacked the archive: the sessions between its steps, what each step
has laid over the files, and how it is taken again. What is read, the Java module and the
archive, has been spared by all that is laid again after it has been read. -/
structure Prepared (env : Environment) (options : SetupOptions) (runtime : Runtime)
    (archive : Path) (introduced left : Session) where
  provided : Session
  located : Session
  outcome : Unpack.Outcome
  early : Overlay
  redone : Overlay
  extracted : Overlay
  filled : Overlay
  place : Location
  provides : Lays env.LogsAt (early.andThen redone) introduced.files provided.files
  provideAgain : ∀ later : Session, provided.files.Grows later.files →
    ∃ last, (provideDefaultConfig env options (pathsFor options runtime)).runOn later =
        (.ok (), last) ∧
      Relays env.LogsAt redone later.files last.files
  locates : Task.Repeats env
    (fun location => provided.files.locate env.workingDirectory options.javaModule = .ok location)
    (options.installDir.join ⟨(pathsFor options runtime).distribution.memberName⟩ = ·)
    (Unpack.locateArchive env options.javaModule (pathsFor options runtime).distribution
      options.installDir) archive provided located extracted
  there : located.files.pathExists env.workingDirectory archive = true
  unpacks : Task.Repeats env (place = ·)
    (Unpack.MemberPath options.installDir (Unpack.membersOf env located archive))
    (Unpack.unpackListed env archive options.installDir) outcome located left filled
  moduleSpared : ∀ location,
    provided.files.locate env.workingDirectory options.javaModule = .ok location →
      ¬ env.LogsAt location ∧ redone location = none ∧ extracted location = none ∧
        filled location = none
  archiveSpared : ¬ env.LogsAt place ∧ redone place = none ∧ filled place = none

/-- A preparation after which the archive still has to be unpacked has unpacked it. -/
theorem prepared_of_prepare {archive : Path}
    (run : (prepare env options runtime).runOn session = (.ok archive, left))
    (undisturbed : ∀ located,
      (findDistribution env options runtime).runOn session = (.ok archive, located) →
      Undisturbed env options runtime archive (Unpack.membersOf env located archive) left.files)
    (needed : Unpack.isNeeded env left.files (pathsFor options runtime).marker options.force =
      true) :
    Nonempty (Prepared env options runtime archive
      (session.recordAll env (introduction options runtime)) left) := by
  rcases prepare_eq_ok run with
    ⟨provided, located, outcome, finding, provide, find, unpack, foundGrown, unpackedGrown⟩
  have spared := undisturbed located finding
  have grown := foundGrown.trans unpackedGrown
  have neededLocated := Unpack.isNeeded_of_grows unpackedGrown needed
  rw [findArchive_run, if_pos (Unpack.isNeeded_of_grows foundGrown neededLocated)] at find
  rcases Unpack.unpackArchive_eq_ok unpack with ⟨_, there, listed⟩ | ⟨unpacked, _, _⟩
  swap
  · cases neededLocated.symm.trans unpacked
  have quietModule : ∀ location,
      provided.files.locate env.workingDirectory options.javaModule = .ok location →
        ¬ env.LogsAt location := by
    intro location named logs
    exact (spared.logsElsewhere location logs).1 (grown.locate named)
  have quietArchive : ∀ location,
      located.files.locate env.workingDirectory archive = .ok location →
        ¬ env.LogsAt location := by
    intro location named logs
    exact (spared.logsElsewhere location logs).2 (unpackedGrown.locate named)
  rcases provideDefaultConfig_again spared.reopens provide with
    ⟨early, redone, provides, placed, provideAgain⟩
  rcases Unpack.locateArchive_repeats spared.reopens quietModule find there with
    ⟨extracted, locates⟩
  rcases Unpack.unpackListed_repeats spared.reopens quietArchive listed with
    ⟨place, filled, found, unpacks⟩
  refine ⟨⟨provided, located, outcome, early, redone, extracted, filled, place, provides,
    provideAgain, locates, there, unpacks, ?_, ?_⟩⟩
  · intro location named
    have elsewhere := quietModule location named
    have config := provides.outside placed grown
      (fun path isConfig => spared.sparesModule path (Or.inl isConfig)) (grown.locate named)
      elsewhere
    refine ⟨elsewhere, (Overlay.andThen_eq_none_iff.mp config).2, ?_, ?_⟩
    · exact locates.lays.outside locates.placed unpackedGrown
        (fun path isArchive => spared.sparesModule path (Or.inr (Or.inl isArchive.symm)))
        (grown.locate named) elsewhere
    · exact unpacks.lays.outside unpacks.placed (.refl left.files)
        (fun path isMember => spared.sparesModule path (Or.inr (Or.inr isMember)))
        (grown.locate named) elsewhere
  · have elsewhere := quietArchive place found
    have config := provides.outside placed grown
      (fun path isConfig => spared.sparesArchive path (Or.inl isConfig))
      (unpackedGrown.locate found) elsewhere
    refine ⟨elsewhere, (Overlay.andThen_eq_none_iff.mp config).2, ?_⟩
    exact unpacks.lays.outside unpacks.placed (.refl left.files)
      (fun path isMember => spared.sparesArchive path (Or.inr isMember))
      (unpackedGrown.locate found) elsewhere

/-- A preparation that has unpacked the archive unpacks it again, and changes nothing. -/
theorem Prepared.again {archive : Path} {introduced again : Session}
    (prepared : Prepared env options runtime archive introduced left)
    (alike : left.files.Alike env.LogsAt again.files)
    (needed : Unpack.isNeeded env again.files (pathsFor options runtime).marker options.force =
      true) :
    ∃ last, (prepare env options runtime).runOn again = (.ok archive, last) ∧
      left.files.Alike env.LogsAt last.files := by
  rcases prepared with ⟨provided, located, outcome, early, redone, extracted, filled, place,
    provides, provideAgain, locates, there, unpacks, moduleSpared, quiet, free, freeFilled⟩
  have introducing := alike.trans (again.recordAll_alike env (introduction options runtime))
  have grows := introducing.grows
  have grown := unpacks.lays.grows
  rcases provideAgain _ (locates.lays.grows.trans (grown.trans grows)) with
    ⟨providedAgain, provideRun, providesAgain⟩
  -- At the start the files are those that the first preparation left.
  have kept {location : Location} (quiet : ¬ env.LogsAt location)
      (free : redone location = none) (freeFilled : filled location = none) :
      providedAgain.files.fileAt? location = located.files.fileAt? location := by
    rw [providesAgain.fileAt_of_none quiet free, FileTree.fileAt?,
      introducing.same location quiet]
    exact unpacks.lays.fileAt_of_none quiet freeFilled
  have sameModule : ∀ location,
      provided.files.locate env.workingDirectory options.javaModule = .ok location →
        providedAgain.files.fileAt? location = provided.files.fileAt? location := by
    intro location named
    rcases moduleSpared location named with ⟨quiet, free, freeExtracted, freeFilled⟩
    rw [kept quiet free freeFilled]
    exact locates.lays.fileAt_of_none quiet freeExtracted
  rcases locates.again providedAgain (grown.trans (grows.trans providesAgain.grows)) sameModule
    with ⟨locatedAgain, locateRun, locatesAgain⟩
  have sameArchive : ∀ location, place = location →
      locatedAgain.files.fileAt? location = located.files.fileAt? location := by
    rintro location rfl
    exact locates.lays.fileAt_again locatesAgain quiet (kept quiet free freeFilled)
  have growsLocated := grows.trans (providesAgain.grows.trans locatesAgain.grows)
  rcases unpacks.again locatedAgain growsLocated sameArchive with ⟨last, unpackRun, unpacksAgain⟩
  refine ⟨last, ?_, ?_⟩
  · have neededIntroduced := Unpack.isNeeded_of_grows
      (again.recordAll_alike env (introduction options runtime)).symm.grows needed
    have neededFind := Unpack.isNeeded_of_grows providesAgain.shrinks neededIntroduced
    have neededUnpack := Unpack.isNeeded_of_grows locatesAgain.shrinks neededFind
    have findRun : (findArchive env options (pathsFor options runtime)).runOn providedAgain =
        (.ok archive, locatedAgain) := by
      rw [findArchive_run, if_pos neededFind]
      exact locateRun
    have unpackAgain : (Unpack.unpackArchive env archive (pathsFor options runtime).marker
        options.installDir options.force).runOn locatedAgain = (.ok outcome, last) := by
      rw [Unpack.unpackArchive_run, if_pos neededUnpack,
        if_pos ((grown.trans growsLocated).pathExists there)]
      exact unpackRun
    exact prepare_of_steps provideRun findRun unpackAgain
  · have first := (provides.trans locates.lays).trans unpacks.lays
    have second := (providesAgain.trans locatesAgain).trans unpacksAgain
    rw [Overlay.andThen_assoc, Overlay.andThen_assoc] at first
    rw [Overlay.andThen_assoc] at second
    exact first.alike_of_relays introducing second

/-- A preparation that has succeeded succeeds again, whether it unpacks again or not, and
changes nothing. -/
theorem prepare_again {archive : Path} {again : Session}
    (run : (prepare env options runtime).runOn session = (.ok archive, left))
    (undisturbed : ∀ located,
      (findDistribution env options runtime).runOn session = (.ok archive, located) →
      Undisturbed env options runtime archive (Unpack.membersOf env located archive) left.files)
    (alike : left.files.Alike env.LogsAt again.files) :
    ∃ last, (prepare env options runtime).runOn again = (.ok archive, last) ∧
      left.files.Alike env.LogsAt last.files := by
  rcases needed : Unpack.isNeeded env again.files (pathsFor options runtime).marker
    options.force with _ | _
  · simp only [Unpack.isNeeded, Bool.or_eq_false_iff, Bool.not_eq_false'] at needed
    have config := alike.grows.pathExists (defaultConfig_of_prepare run)
    have prepared := prepare_of_prepared needed.1 config needed.2
    rw [expectedArchive_of_prepare run
      (alike.trans (again.recordAll_alike env (introduction options runtime)))] at prepared
    exact ⟨_, prepared, alike.trans (again.recordAll_alike env _)⟩
  · rcases prepared_of_prepare run undisturbed
      (Unpack.isNeeded_of_grows alike.grows needed) with ⟨prepared⟩
    exact prepared.again alike needed

/-- A run that has failed in the hands of the installer has prepared the configuration, and if
that installer fails idly, it has left what it prepared. -/
theorem prepared_of_failed {failing : Installer} {error : SetupError}
    (idle : failing.FailsIdly (pathsFor options runtime).installerModule)
    (failed : (run env options runtime failing).runOn session = (.error error, left))
    (reached : left.calls ≠ session.calls) :
    ∃ archive prepared, (prepare env options runtime).runOn session = (.ok archive, prepared) ∧
      prepared.files.Alike env.LogsAt left.files := by
  rw [run_eq] at failed
  rcases Task.runOn_bind_eq_error failed with stopped | ⟨archive, prepared, preparing, configuring⟩
  · have silent := (@prepare_along env session.files options runtime session).calls
    rw [stopped] at silent
    exact absurd silent reached
  · refine ⟨archive, prepared, preparing, ?_⟩
    rw [Configure.configure_run] at configuring
    split at configuring
    · cases configuring
    · exact Configure.handOver_untouched idle configuring

/-- After a run that failed because the installer failed, without having touched the files, a
run with another installer comes to what that run would have come to from the start: it has
the same result, makes the same calls, with the same request, and leaves the same files, but
for the log. What is read must not be among what is written. -/
theorem run_resumed (env : Environment) (options : SetupOptions) (runtime : Runtime)
    (failing installer : Installer) (session again : Session) (error : SetupError)
    (idle : failing.FailsIdly (pathsFor options runtime).installerModule)
    (failed : ((run env options runtime failing).runOn session).1 = .error error)
    (reached : ((run env options runtime failing).runOn session).2.calls ≠ session.calls)
    (blind : installer.BlindToLog env)
    (undisturbed : ∀ archive located,
      (findDistribution env options runtime).runOn session = (.ok archive, located) →
      Undisturbed env options runtime archive (Unpack.membersOf env located archive)
        ((run env options runtime failing).runOn session).2.files)
    (resumed : again.files = ((run env options runtime failing).runOn session).2.files) :
    Task.Agree env session again ((run env options runtime installer).runOn session)
      ((run env options runtime installer).runOn again) := by
  rcases first : (run env options runtime failing).runOn session with ⟨result, left⟩
  simp only [first] at failed reached undisturbed resumed
  subst failed
  rcases prepared_of_failed idle first reached with ⟨archive, prepared, preparing, untouched⟩
  rw [← resumed] at untouched undisturbed
  have spared (located : Session)
      (finding : (findDistribution env options runtime).runOn session = (.ok archive, located)) :
      Undisturbed env options runtime archive (Unpack.membersOf env located archive)
        prepared.files :=
    (undisturbed archive located finding).of_grows untouched.grows
  rcases prepare_again preparing spared untouched with ⟨last, preparingAgain, alike⟩
  have silent := (@prepare_along env session.files options runtime session).calls
  have silentAgain := (@prepare_along env again.files options runtime again).calls
  rw [preparing] at silent
  rw [preparingAgain] at silentAgain
  rw [run_eq, Task.runOn_bind_of_ok preparing, Task.runOn_bind_of_ok preparingAgain]
  have agree : Task.Agree env prepared last _ _ :=
    @Configure.configure_blind env options installer (pathsFor options runtime) archive blind
      prepared last alike
  rcases agree.calls with ⟨made, calls, callsAgain⟩
  exact ⟨agree.result, ⟨made, by rw [calls, silent], by rw [callsAgain, silentAgain]⟩,
    agree.files⟩

/-! ## Installers that leave the files alone -/

/-- An installer that can be loaded, leaves the files alone and always gives the same answer. -/
def settledInstaller (answer : Except BridgeError Int) : Installer where
  load _ files := ⟨.ok ⟨fun _ => [], fun _ files => ⟨answer, files, [], []⟩⟩, files, [], []⟩

theorem settledInstaller_failsIdly (answer : Except BridgeError Int) (module : Path) :
    (settledInstaller answer).FailsIdly module where
  load _ := rfl
  write := by
    intro tree writer loaded request before error _
    cases loaded
    rfl

theorem settledInstaller_blind (answer : Except BridgeError Int) :
    (settledInstaller answer).BlindToLog env where
  load _ _ _ alike := ⟨rfl, rfl, alike⟩
  write := by
    intro module tree writer loaded request first second alike
    cases loaded
    exact ⟨rfl, rfl, alike⟩

def stuckInstaller : Installer :=
  settledInstaller (.error (.terminated "python"))

/-- A run that cannot start the interpreter for the installer, which leaves the bridge unpacked
but not configured. -/
def stuckRun : Except SetupError Int × Session :=
  (run sampleEnvironment sampleOptions sampleRuntime stuckInstaller).runOn
    (.start sampleTree .debug)

theorem undisturbed_of_stuckRun {archive : Path} {located : Session}
    (finding : (findDistribution sampleEnvironment sampleOptions sampleRuntime).runOn
      (.start sampleTree .debug) = (.ok archive, located)) :
    Undisturbed sampleEnvironment sampleOptions sampleRuntime archive
      (Unpack.membersOf sampleEnvironment located archive) stuckRun.2.files := by
  have found : ((findDistribution sampleEnvironment sampleOptions sampleRuntime).runOn
      (.start sampleTree .debug)).1 = .ok ⟨"j/lib/jpy.p-1.zip"⟩ := by decide +kernel
  have members : ∀ member ∈ Unpack.membersOf sampleEnvironment
      ((findDistribution sampleEnvironment sampleOptions sampleRuntime).runOn
        (.start sampleTree .debug)).2 ⟨"j/lib/jpy.p-1.zip"⟩,
      member.name = "m" := by decide +kernel
  rw [finding] at found members
  cases found
  have written : ∀ path, path = (pathsFor sampleOptions sampleRuntime).defaultConfig ∨
      Unpack.MemberPath sampleOptions.installDir
        (Unpack.membersOf sampleEnvironment located ⟨"j/lib/jpy.p-1.zip"⟩) path →
      path = ⟨"d/beampy.ini"⟩ ∨ path = ⟨"d/m"⟩ := by
    rintro path (rfl | ⟨member, among, relative, safe, rfl⟩)
    · left
      decide
    · right
      rw [Unpack.eq_of_safePath? safe, members member among]
      decide
  refine ⟨?_, ?_, ?_, sampleEnvironment_reopens⟩
  · intro path _ same
    have directory : stuckRun.2.files.isFile [] ⟨"j"⟩ = false := by decide +kernel
    cases directory.symm.trans same.isFile
  · intro path isWritten same
    have apart : stuckRun.2.files.locate [] ⟨"d/beampy.ini"⟩ ≠
          stuckRun.2.files.locate [] ⟨"j/lib/jpy.p-1.zip"⟩ ∧
        stuckRun.2.files.locate [] ⟨"d/m"⟩ ≠
          stuckRun.2.files.locate [] ⟨"j/lib/jpy.p-1.zip"⟩ := by decide +kernel
    rcases written path isWritten with rfl | rfl
    · exact apart.1 same.locate_eq
    · exact apart.2 same.locate_eq
  · rintro location ⟨logFile, none, _⟩
    cases none

theorem run_resumed_sample :
    stuckRun.1 = .error (.bridge (.terminated "python")) ∧
    stuckRun.2.calls ≠ [] ∧
    (∀ archive located,
      (findDistribution sampleEnvironment sampleOptions sampleRuntime).runOn
        (.start sampleTree .debug) = (.ok archive, located) →
      Undisturbed sampleEnvironment sampleOptions sampleRuntime archive
        (Unpack.membersOf sampleEnvironment located archive) stuckRun.2.files) ∧
    Task.Agree sampleEnvironment (.start sampleTree .debug) (.start stuckRun.2.files .debug)
      ((run sampleEnvironment sampleOptions sampleRuntime (settledInstaller (.ok 0))).runOn
        (.start sampleTree .debug))
      ((run sampleEnvironment sampleOptions sampleRuntime (settledInstaller (.ok 0))).runOn
        (.start stuckRun.2.files .debug)) := by
  have failed : stuckRun.1 = .error (.bridge (.terminated "python")) := by decide +kernel
  have reached : stuckRun.2.calls ≠ [] := by decide +kernel
  have undisturbed := fun archive located => @undisturbed_of_stuckRun archive located
  have agree := run_resumed sampleEnvironment sampleOptions sampleRuntime stuckInstaller
    (settledInstaller (.ok 0)) (.start sampleTree .debug) (.start stuckRun.2.files .debug)
    (.bridge (.terminated "python")) (settledInstaller_failsIdly _ _)
  rw [← stuckRun] at agree
  exact ⟨failed, reached, undisturbed,
    agree failed reached (settledInstaller_blind _) undisturbed (Session.start_files _ _)⟩

end Setup

end BridgeSetup
