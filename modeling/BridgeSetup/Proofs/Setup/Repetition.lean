import BridgeSetup.Proofs.Setup.Configuring
import BridgeSetup.Proofs.Setup.Preparation

/-!
# Running again

A run that has just succeeded with an installer that keeps its contract leaves three gates to
the next one: the default configuration is there, the bridge is configured, and usually the
marker is there too. All of this stays, because nothing is ever taken away. So the next run
never gets as far as the installer, and where the marker is there it has nothing to unpack
either, and writes nothing (`run_again`).

The marker is the weak point. It comes from the installer, and an installation that was
configured before its marker was lost, or for another interpreter, is not handed over to the
installer any more. Such an installation is unpacked anew by every run
(`run_again_unpacks`).
-/

namespace BridgeSetup

/-- An installer keeps its contract: it never takes anything away, and when it reports success
it has left the bridge's configuration and the marker. -/
structure Installer.Honours (env : Environment) (paths : InstallPaths) (installer : Installer) :
    Prop where
  keepsLoading : ∀ before path, before.pathExists env.workingDirectory path = true →
    (installer.load paths.installerModule before).files.pathExists env.workingDirectory path = true
  keepsWriting : ∀ {tree writer},
    (installer.load paths.installerModule tree).result = .ok writer →
    ∀ request before path, before.pathExists env.workingDirectory path = true →
      (writer.write request before).files.pathExists env.workingDirectory path = true
  completes : ∀ {tree writer},
    (installer.load paths.installerModule tree).result = .ok writer →
    ∀ request before, request.outDir = paths.directory →
      (writer.write request before).result = .ok SetupError.successStatus →
      paths.isConfigured (writer.write request before).files env.workingDirectory = true ∧
        (writer.write request before).files.pathExists env.workingDirectory paths.marker = true

theorem InstallPaths.isConfigured_grow {paths : InstallPaths} {before after : FileTree}
    {here : Location} (configured : paths.isConfigured before here = true)
    (kept : ∀ path, before.pathExists here path = true → after.pathExists here path = true) :
    paths.isConfigured after here = true := by
  simp only [isConfigured, Bool.and_eq_true] at configured ⊢
  exact ⟨kept _ configured.1, kept _ configured.2⟩

variable {env : Environment} {options : SetupOptions} {runtime : Runtime}
  {installer : Installer} {session left : Session}

/-! ## What a successful run leaves -/

namespace Configure

variable {paths : InstallPaths} {archive : Path}

/-- While the bridge is configured by an installer that keeps its contract, nothing that a
path names is taken away. -/
theorem Configures.pathExists {before after : Session} (honours : installer.Honours env paths)
    (configures : Configures env installer paths.installerModule before after) {path : Path}
    (there : before.files.pathExists env.workingDirectory path = true) :
    after.files.pathExists env.workingDirectory path = true := by
  unfold Configures at configures
  generalize after.files = last at configures ⊢
  induction configures with
  | refl => exact there
  | tail _ step ih =>
      cases step with
      | log logged => exact logged.grows.pathExists ih
      | load => exact honours.keepsLoading _ path ih
      | write loaded request => exact honours.keepsWriting loaded request _ path ih

/-- A status comes from a writer that has been loaded. -/
theorem handOver_ok {status : Int}
    (run : (handOver env paths archive options installer).runOn session = (.ok status, left)) :
    ∃ tree writer request, ∃ before : Session,
      (installer.load paths.installerModule tree).result = .ok writer ∧
      request.outDir = paths.directory ∧
      (writer.write request before.files).result = .ok status ∧
      left = before.afterReply env (writer.write request before.files) := by
  rcases Task.runOn_bind_eq_ok run with ⟨_, noted, _, run⟩
  rcases Task.runOn_bind_eq_ok run with ⟨writer, loaded, load, run⟩
  rcases Task.runOn_bind_eq_ok run with ⟨javaHome, resolved, _, run⟩
  rcases Task.runOn_bind_eq_ok run with ⟨_, asked, _, run⟩
  rcases Task.runOn_bind_eq_ok run with ⟨_, announced, _, run⟩
  rcases Task.runOn_ofReply_eq_ok run with ⟨reported, rfl⟩
  exact ⟨noted.files, writer, _, announced, (Task.runOn_ofReply_eq_ok load).1, rfl, reported, rfl⟩

theorem configured_of_configure (unforced : options.force = false)
    (honours : installer.Honours env paths)
    (run : (configure env paths archive options installer).runOn session = (.ok 0, left)) :
    paths.isConfigured left.files env.workingDirectory = true ∧
      (left.calls ≠ session.calls →
        left.files.pathExists env.workingDirectory paths.marker = true) := by
  rw [configure_run] at run
  split at run
  · next skipped =>
      cases run
      simp only [unforced, Bool.not_false, Bool.true_and] at skipped
      refine ⟨InstallPaths.isConfigured_grow skipped ?_, ?_⟩
      · intro path there
        exact (session.record_alike env skipEntry).grows.pathExists there
      · intro called
        exact absurd (session.record_calls env skipEntry) called
  · rcases handOver_ok run with ⟨tree, writer, request, before, loaded, directory, done, rfl⟩
    have kept := (before.afterReply_alike env (writer.write request before.files)).grows
    rcases honours.completes loaded request before.files directory done with ⟨configured, marked⟩
    refine ⟨InstallPaths.isConfigured_grow configured ?_, fun _ => kept.pathExists marked⟩
    intro path there
    exact kept.pathExists there

theorem configure_of_configured (unforced : options.force = false)
    (configured : paths.isConfigured session.files env.workingDirectory = true) :
    (configure env paths archive options installer).runOn session =
      (.ok 0, session.record env skipEntry) := by
  rw [configure_run, unforced, configured]
  rfl

end Configure

namespace Setup

/-- The steps of a preparation that has succeeded. The files have grown all along. -/
theorem prepare_eq_ok {archive : Path}
    (run : (prepare env options runtime).runOn session = (.ok archive, left)) :
    ∃ provided located outcome,
      (findDistribution env options runtime).runOn session = (.ok archive, located) ∧
      (provideDefaultConfig env options (pathsFor options runtime)).runOn
        (session.recordAll env (introduction options runtime)) = (.ok (), provided) ∧
      (findArchive env options (pathsFor options runtime)).runOn provided =
        (.ok archive, located) ∧
      (Unpack.unpackArchive env archive (pathsFor options runtime).marker options.installDir
        options.force).runOn located = (.ok outcome, left) ∧
      provided.files.Grows located.files ∧ located.files.Grows left.files := by
  rcases Task.runOn_bind_eq_ok run with ⟨found, located, finding, unpacking⟩
  rcases Task.runOn_bind_eq_ok unpacking with ⟨outcome, unpacked, unpack, ended⟩
  cases ended
  have steps := finding
  rw [findDistribution, Task.runOn_bind_of_ok (introduce_run env options runtime session)] at steps
  rcases Task.runOn_bind_eq_ok steps with ⟨_, provided, providing, find⟩
  have foundGrown := (@findArchive_along env provided.files options runtime provided).grows
  rw [find] at foundGrown
  have unpackedGrown :=
    (@unpackDistribution_along env located.files options runtime archive located).grows
  rw [unpack] at unpackedGrown
  exact ⟨provided, located, outcome, finding, providing, find, unpack, foundGrown, unpackedGrown⟩

theorem prepare_of_steps {archive : Path} {provided located : Session} {outcome : Unpack.Outcome}
    (provide : (provideDefaultConfig env options (pathsFor options runtime)).runOn
      (session.recordAll env (introduction options runtime)) = (.ok (), provided))
    (find : (findArchive env options (pathsFor options runtime)).runOn provided =
      (.ok archive, located))
    (unpack : (Unpack.unpackArchive env archive (pathsFor options runtime).marker
      options.installDir options.force).runOn located = (.ok outcome, left)) :
    (prepare env options runtime).runOn session = (.ok archive, left) := by
  have found : (findDistribution env options runtime).runOn session = (.ok archive, located) := by
    rw [findDistribution, Task.runOn_bind_of_ok (introduce_run env options runtime session),
      Task.runOn_bind_of_ok provide, find]
  rw [prepare, Task.runOn_bind_of_ok found, Task.runOn_bind_of_ok unpack, Task.runOn_pure]

theorem defaultConfig_of_prepare {archive : Path}
    (run : (prepare env options runtime).runOn session = (.ok archive, left)) :
    left.files.pathExists env.workingDirectory (pathsFor options runtime).defaultConfig = true := by
  rcases prepare_eq_ok run with
    ⟨provided, located, outcome, _, providing, _, _, foundGrown, unpackedGrown⟩
  exact (foundGrown.trans unpackedGrown).pathExists (pathExists_of_provided providing)

theorem run_eq_ok {status : Int}
    (finished : (run env options runtime installer).runOn session = (.ok status, left)) :
    ∃ archive prepared, (prepare env options runtime).runOn session = (.ok archive, prepared) ∧
      (Configure.configure env (pathsFor options runtime) archive options installer).runOn
        prepared = (.ok status, left) := by
  rw [run_eq] at finished
  exact Task.runOn_bind_eq_ok finished

/-! ## The next run -/

/-- What is logged when there is nothing to unpack. -/
def alreadyUnpackedEntry (paths : InstallPaths) : Entry :=
  ⟨.debug, "'" ++ paths.marker.text ++ "' exists, binary distribution already unpacked"⟩

/-- All that a run says that finds nothing to do. -/
def idleEntries (options : SetupOptions) (runtime : Runtime) : List Entry :=
  introduction options runtime ++
    [alreadyUnpackedEntry (pathsFor options runtime), Configure.skipEntry]

/-- With the default configuration and the marker there, a preparation only looks. -/
theorem prepare_of_prepared (unforced : options.force = false)
    (there : session.files.pathExists env.workingDirectory
      (pathsFor options runtime).defaultConfig = true)
    (marked : session.files.pathExists env.workingDirectory
      (pathsFor options runtime).marker = true) :
    (prepare env options runtime).runOn session =
      (.ok (Unpack.expectedArchive env
          (session.recordAll env (introduction options runtime)).files options.javaModule
          (pathsFor options runtime).distribution options.installDir),
        session.recordAll env
          (introduction options runtime ++ [alreadyUnpackedEntry (pathsFor options runtime)])) := by
  let introduced := session.recordAll env (introduction options runtime)
  have kept := (session.recordAll_alike env (introduction options runtime)).grows
  have notNeeded : Unpack.isNeeded env introduced.files (pathsFor options runtime).marker
      options.force = false := by
    simp [Unpack.isNeeded, unforced, introduced, kept.pathExists marked]
  have present : (provideDefaultConfig env options (pathsFor options runtime)).runOn introduced =
      (.ok (), introduced) := provideDefaultConfig_of_present unforced (kept.pathExists there)
  have find : (findArchive env options (pathsFor options runtime)).runOn introduced =
      (.ok (Unpack.expectedArchive env introduced.files options.javaModule
        (pathsFor options runtime).distribution options.installDir), introduced) := by
    rw [findArchive_run, notNeeded]
    rfl
  have unpack (archive : Path) : (Unpack.unpackArchive env archive
      (pathsFor options runtime).marker options.installDir options.force).runOn introduced =
        (.ok .alreadyUnpacked,
          introduced.record env (alreadyUnpackedEntry (pathsFor options runtime))) := by
    rw [Unpack.unpackArchive_run, notNeeded]
    rfl
  rw [Session.recordAll_append]
  exact prepare_of_steps present find (unpack _)

/-- A run that comes right after a successful one, with an installer that keeps its contract,
calls nothing. If the marker is there by then, it succeeds as well, says that there is nothing
to unpack and nothing to configure, and writes nothing but the log. The marker is there
whenever the first run got as far as the installer. -/
theorem run_again (env : Environment) (options : SetupOptions) (runtime : Runtime)
    (installer : Installer) (session again : Session) (unforced : options.force = false)
    (honours : installer.Honours env (pathsFor options runtime))
    (finished : ((run env options runtime installer).runOn session).1 = .ok 0)
    (atOnce : again.files = ((run env options runtime installer).runOn session).2.files) :
    ((run env options runtime installer).runOn again).2.calls = again.calls ∧
    (again.files.pathExists env.workingDirectory (pathsFor options runtime).marker = true →
      (run env options runtime installer).runOn again =
        (.ok 0, again.recordAll env (idleEntries options runtime))) ∧
    (((run env options runtime installer).runOn session).2.calls ≠ session.calls →
      again.files.pathExists env.workingDirectory (pathsFor options runtime).marker = true) := by
  rcases first : (run env options runtime installer).runOn session with ⟨result, left⟩
  simp only [first] at finished atOnce ⊢
  subst finished
  rcases run_eq_ok first with ⟨archive, prepared, preparing, configuring⟩
  have there := Configure.configure_configures env (pathsFor options runtime) archive options
    installer prepared
  rw [configuring] at there
  have config := there.pathExists honours (defaultConfig_of_prepare preparing)
  have silent := (@prepare_along env session.files options runtime session).calls
  rw [preparing] at silent
  rcases Configure.configured_of_configure unforced honours configuring with ⟨configured, called⟩
  rw [← atOnce] at config configured called
  refine ⟨?_, ?_, ?_⟩
  · -- Whatever the preparation comes to, the configuration is still there after it.
    have along := @prepare_along env again.files options runtime again
    rw [run_eq, Task.runOn_bind]
    split
    · next archive middle again_prepared =>
        rw [again_prepared] at along
        have still := InstallPaths.isConfigured_grow configured fun _ => along.grows.pathExists
        rw [Configure.configure_of_configured unforced still, Session.record_calls]
        exact along.calls
    · next error middle stopped =>
        rw [stopped] at along
        exact along.calls
  · intro marked
    have kept := (again.recordAll_alike env (introduction options runtime ++
      [alreadyUnpackedEntry (pathsFor options runtime)])).grows
    have still := InstallPaths.isConfigured_grow configured fun _ => kept.pathExists
    rw [run_eq, Task.runOn_bind_of_ok (prepare_of_prepared unforced config marked),
      Configure.configure_of_configured unforced still]
    simp [idleEntries, Session.recordAll, List.foldl_append]
  · intro called_first
    exact called (by rwa [silent])

/-! ## An installer that keeps its contract -/

/-- Writes empty files. -/
def writeBlank (here : Location) : List Path → TreeAction Unit
  | [] => pure ()
  | path :: rest => do
    FileTree.writeFile here path []
    writeBlank here rest

theorem writeBlank_grows (here : Location) (paths : List Path) (tree : FileTree) :
    tree.Grows ((writeBlank here paths).runOn tree).2 := by
  induction paths generalizing tree with
  | nil => exact .refl tree
  | cons path rest ih =>
      have first := (FileTree.writeFile_touches .none here path [] tree).grows
      rw [writeBlank, TreeAction.runOn_bind]
      split
      · next value left run =>
          rw [run] at first
          exact first.trans (ih left)
      · next error left run =>
          rw [run] at first
          exact first

theorem pathExists_of_writeBlank {here : Location} {paths : List Path} {tree left : FileTree}
    (run : (writeBlank here paths).runOn tree = (.ok (), left)) :
    ∀ path ∈ paths, left.pathExists here path = true := by
  induction paths generalizing tree with
  | nil => simp
  | cons path rest ih =>
      rcases TreeAction.runOn_bind_eq_ok run with ⟨_, middle, first, others⟩
      have grows := writeBlank_grows here rest middle
      rw [others] at grows
      intro other member
      rcases List.mem_cons.mp member with rfl | later
      · exact grows.pathExists (FileTree.pathExists_of_writeFile first)
      · exact ih others other later

/-- An installer that writes an empty configuration and an empty marker, and reports success
when it could write them all. -/
def plainInstaller (env : Environment) (paths : InstallPaths) : Installer where
  load _ files :=
    let write (files : FileTree) : Reply Int :=
      let (result, left) := (writeBlank env.workingDirectory
        [paths.javaConfig, paths.pythonConfig, paths.marker]).runOn files
      ⟨(result.map fun _ => SetupError.successStatus).mapError .io, left, [], []⟩
    ⟨.ok ⟨fun _ => [], fun _ => write⟩, files, [], []⟩

theorem plainInstaller_honours (env : Environment) (paths : InstallPaths) :
    (plainInstaller env paths).Honours env paths where
  keepsLoading _ _ there := there
  keepsWriting := by
    intro tree writer loaded request before path there
    cases loaded
    exact (writeBlank_grows env.workingDirectory _ before).pathExists there
  completes := by
    intro tree writer loaded request before _ succeeded
    cases loaded
    rcases run : (writeBlank env.workingDirectory
      [paths.javaConfig, paths.pythonConfig, paths.marker]).runOn before with ⟨error | _, left⟩
    · simp [run, Except.map, Except.mapError] at succeeded
    · have written := pathExists_of_writeBlank run
      simp only [run, InstallPaths.isConfigured, Bool.and_eq_true]
      refine ⟨⟨written _ ?_, written _ ?_⟩, written _ ?_⟩
      · simp
      · simp
      · simp

def sampleInstaller : Installer :=
  plainInstaller sampleEnvironment (pathsFor sampleOptions sampleRuntime)

def sampleRun (files : FileTree) : Except SetupError Int × Session :=
  (run sampleEnvironment sampleOptions sampleRuntime sampleInstaller).runOn (.start files .debug)

theorem run_again_sample :
    sampleOptions.force = false ∧
    sampleInstaller.Honours sampleEnvironment (pathsFor sampleOptions sampleRuntime) ∧
    (sampleRun sampleTree).1 = .ok 0 ∧
    (sampleRun (sampleRun sampleTree).2.files).2.calls = [] ∧
    ((sampleRun sampleTree).2.files.pathExists sampleEnvironment.workingDirectory
        (pathsFor sampleOptions sampleRuntime).marker = true →
      sampleRun (sampleRun sampleTree).2.files =
        (.ok 0, (Session.start (sampleRun sampleTree).2.files .debug).recordAll sampleEnvironment
          (idleEntries sampleOptions sampleRuntime))) ∧
    ((sampleRun sampleTree).2.calls ≠ [] →
      (sampleRun sampleTree).2.files.pathExists sampleEnvironment.workingDirectory
        (pathsFor sampleOptions sampleRuntime).marker = true) := by
  have honours := plainInstaller_honours sampleEnvironment (pathsFor sampleOptions sampleRuntime)
  have finished : (sampleRun sampleTree).1 = .ok 0 := by decide +kernel
  have atOnce : (Session.start (sampleRun sampleTree).2.files .debug).files =
      ((run sampleEnvironment sampleOptions sampleRuntime sampleInstaller).runOn
        (.start sampleTree .debug)).2.files := by
    rw [sampleRun, Session.start_files]
  have again := run_again sampleEnvironment sampleOptions sampleRuntime sampleInstaller
    (.start sampleTree .debug) (.start (sampleRun sampleTree).2.files .debug) rfl honours finished
    atOnce
  exact ⟨rfl, honours, finished, by simpa only [sampleRun, Session.start] using again⟩

/-- A tree in which the bridge has been configured, but there is no marker. -/
def markerlessTree : FileTree :=
  (sampleTree.set ["jpyconfig.py", "d"] (.file [] 0o644)).set ["jpyconfig.properties", "d"]
    (.file [] 0o644)

/-- Where the bridge is configured and the marker is missing, a run succeeds and leaves it
missing, and the next run unpacks again. -/
theorem run_again_unpacks :
    sampleOptions.force = false ∧
    sampleInstaller.Honours sampleEnvironment (pathsFor sampleOptions sampleRuntime) ∧
    (sampleRun markerlessTree).1 = .ok 0 ∧
    (sampleRun (sampleRun markerlessTree).2.files).2.log.entries =
      introduction sampleOptions sampleRuntime ++
        [Unpack.unzipEntry ⟨"j/lib/jpy.p-1.zip"⟩, Unpack.unpackedEntry 1 ⟨"d"⟩,
          Configure.skipEntry] ∧
    alreadyUnpackedEntry (pathsFor sampleOptions sampleRuntime) ∉
      (sampleRun (sampleRun markerlessTree).2.files).2.log.entries := by
  refine ⟨rfl, plainInstaller_honours _ _, ?_⟩
  decide +kernel

end Setup

end BridgeSetup
