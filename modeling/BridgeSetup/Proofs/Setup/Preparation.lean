import BridgeSetup.Proofs.FileTree.Overlay
import BridgeSetup.Proofs.Setup.Members

/-!
# Preparing the configuration of the bridge

A setup run prepares the configuration of the bridge, and then configures it (`run_eq`).
The preparation finds the distribution, once there is a default configuration, and unpacks
it. It needs an installation directory: without one it stops at the default configuration,
and nothing has been changed by then (`provideDefaultConfig_run`). A default configuration for
which there is not enough space is the one thing that a preparation can leave that stops there.
-/

namespace BridgeSetup.Setup

/-- The files of the installation that a run sets up. -/
def pathsFor (options : SetupOptions) (runtime : Runtime) : InstallPaths :=
  .resolve options.installDir ⟨runtime.platform, runtime.version⟩

/-- What a run says before it does anything. -/
def introduction (options : SetupOptions) (runtime : Runtime) : List Entry :=
  [⟨.info, "installing from Java module '" ++ options.javaModule.text ++ "'"⟩] ++
    Architecture.warnings options.reqArch runtime.machine runtime.is64Bit ++
    [⟨.debug, distributionMessage (pathsFor options runtime).distribution⟩]

/-- Says what a run says before it does anything. -/
def introduce (env : Environment) (options : SetupOptions) (runtime : Runtime) :
    Task SetupError Unit := do
  Task.say env .info ("installing from Java module '" ++ options.javaModule.text ++ "'")
  Task.sayAll env (Architecture.warnings options.reqArch runtime.machine runtime.is64Bit)
  Task.say env .debug (distributionMessage (pathsFor options runtime).distribution)

/-- Provides the default configuration and finds the archive of the distribution. -/
def findDistribution (env : Environment) (options : SetupOptions) (runtime : Runtime) :
    Task SetupError Path := do
  introduce env options runtime
  provideDefaultConfig env options (pathsFor options runtime)
  findArchive env options (pathsFor options runtime)

/-- All that a run does before it configures the bridge; the result is the archive of the
distribution. -/
def prepare (env : Environment) (options : SetupOptions) (runtime : Runtime) :
    Task SetupError Path := do
  let archive ← findDistribution env options runtime
  let _ ← Unpack.unpackArchive env archive (pathsFor options runtime).marker
    options.installDir options.force
  return archive

theorem run_eq (env : Environment) (options : SetupOptions) (runtime : Runtime)
    (installer : Installer) :
    run env options runtime installer = prepare env options runtime >>= fun archive =>
      Configure.configure env (pathsFor options runtime) archive options installer := by
  simp [run, prepare, findDistribution, introduce, pathsFor, InstallPaths.resolve]

theorem introduce_run (env : Environment) (options : SetupOptions) (runtime : Runtime)
    (session : Session) :
    (introduce env options runtime).runOn session =
      (.ok (), session.recordAll env (introduction options runtime)) := by
  simp [introduce, introduction, Task.runOn_bind, Session.recordAll]

/-- The default configuration of a run. -/
def defaultConfigPatch (options : SetupOptions) : FileTree.Patch :=
  ⟨Bytes.ofString (DefaultConfig.render options.snapHome), none⟩

/-- What is logged when a default configuration has been written. -/
def wroteEntry (paths : InstallPaths) : Entry :=
  ⟨.info, "wrote '" ++ paths.defaultConfig.text ++ "'"⟩

section DefaultConfig

variable {env : Environment} {options : SetupOptions} {paths : InstallPaths}
  {session left : Session} {location : Location}

theorem provideDefaultConfig_of_present (unforced : options.force = false)
    (there : session.files.pathExists env.workingDirectory paths.defaultConfig = true) :
    (provideDefaultConfig env options paths).runOn session = (.ok (), session) := by
  simp [provideDefaultConfig, DefaultConfig.write, Task.runOn_bind, unforced, there]

/-- A default configuration has to be written. -/
def LacksDefaultConfig (env : Environment) (options : SetupOptions) (paths : InstallPaths)
    (tree : FileTree) : Prop :=
  options.force = true ∨ tree.pathExists env.workingDirectory paths.defaultConfig = false

theorem provideDefaultConfig_of_lacking
    (lacks : LacksDefaultConfig env options paths session.files) :
    (provideDefaultConfig env options paths).runOn session =
      match (FileTree.writeFile env.workingDirectory paths.defaultConfig
        (defaultConfigPatch options).contents env.refusals).runOn session.files with
      | (.error error, files) => (.error (.io error), session.withFiles files)
      | (.ok (), files) => (.ok (), (session.withFiles files).record env (wroteEntry paths)) := by
  have gate : (!options.force &&
      session.files.pathExists env.workingDirectory paths.defaultConfig) = false := by
    rcases lacks with forced | missing
    · simp [forced]
    · simp [missing]
  simp only [provideDefaultConfig, DefaultConfig.write, Task.runOn_bind, Task.runOn_look,
    gate, Bool.false_eq_true, ↓reduceIte, Task.runOn_onFiles, defaultConfigPatch]
  rcases (FileTree.writeFile env.workingDirectory paths.defaultConfig
    (Bytes.ofString (DefaultConfig.render options.snapHome)) env.refusals).runOn session.files with
    ⟨error | ⟨⟩, files⟩ <;> rfl

theorem provideDefaultConfig_of_targets
    (targets : session.files.Targets env.workingDirectory paths.defaultConfig location)
    (writable : session.files.Writable env.refusals location)
    (fits : env.refusals.overflow location (defaultConfigPatch options).contents = none)
    (lacks : LacksDefaultConfig env options paths session.files) :
    (provideDefaultConfig env options paths).runOn session =
      (.ok (), (session.withFiles (session.files.patchAt location
        (defaultConfigPatch options))).record env (wroteEntry paths)) := by
  rw [provideDefaultConfig_of_lacking lacks, targets.writeFile writable, fits,
    Refusals.admitted_eq fits]
  rfl

/-- The step that provides the default configuration fails and changes nothing, or finds one
and changes nothing, or writes one where its path puts it. If there is not enough space, it fails
there and leaves what it could write. -/
theorem provideDefaultConfig_run (env : Environment) (options : SetupOptions)
    (paths : InstallPaths) (session : Session) :
    (∃ error, (provideDefaultConfig env options paths).runOn session = (.error error, session)) ∨
    (options.force = false ∧
      session.files.pathExists env.workingDirectory paths.defaultConfig = true ∧
      (provideDefaultConfig env options paths).runOn session = (.ok (), session)) ∨
    ∃ location, session.files.Targets env.workingDirectory paths.defaultConfig location ∧
      session.files.Writable env.refusals location ∧
      LacksDefaultConfig env options paths session.files ∧
      ((env.refusals.overflow location (defaultConfigPatch options).contents = none ∧
        (provideDefaultConfig env options paths).runOn session =
          (.ok (), (session.withFiles (session.files.patchAt location
            (defaultConfigPatch options))).record env (wroteEntry paths))) ∨
      ∃ error contents, (provideDefaultConfig env options paths).runOn session =
        (.error error, session.withFiles (session.files.patchAt location ⟨contents, none⟩))) := by
  by_cases skipped : (!options.force &&
      session.files.pathExists env.workingDirectory paths.defaultConfig) = true
  · right
    left
    simp only [Bool.and_eq_true, Bool.not_eq_true'] at skipped
    exact ⟨skipped.1, skipped.2, provideDefaultConfig_of_present skipped.1 skipped.2⟩
  have lacks : LacksDefaultConfig env options paths session.files := by
    simpa [LacksDefaultConfig, Bool.and_eq_true, Decidable.or_iff_not_imp_left] using skipped
  rcases FileTree.writeFile_run session.files env.refusals env.workingDirectory
    paths.defaultConfig (defaultConfigPatch options).contents with
    ⟨error, failed⟩ | ⟨location, targets, writable⟩
  · left
    exact ⟨.io error, by rw [provideDefaultConfig_of_lacking lacks, failed]; rfl⟩
  right
  right
  refine ⟨location, targets, writable, lacks, ?_⟩
  rcases fits : env.refusals.overflow location (defaultConfigPatch options).contents with _ | fault
  · left
    exact ⟨rfl, provideDefaultConfig_of_targets targets writable fits lacks⟩
  · right
    refine ⟨.io (.system fault),
      env.refusals.admitted location (defaultConfigPatch options).contents, ?_⟩
    rw [provideDefaultConfig_of_lacking lacks, targets.writeFile writable, fits]
    rfl

/-- A default configuration that has been provided was there, or has been written where its path
puts it. -/
theorem provideDefaultConfig_ok
    (run : (provideDefaultConfig env options paths).runOn session = (.ok (), left)) :
    (options.force = false ∧
      session.files.pathExists env.workingDirectory paths.defaultConfig = true ∧ left = session) ∨
    ∃ location, session.files.Targets env.workingDirectory paths.defaultConfig location ∧
      session.files.Writable env.refusals location ∧
      env.refusals.overflow location (defaultConfigPatch options).contents = none ∧
      left = (session.withFiles (session.files.patchAt location
        (defaultConfigPatch options))).record env (wroteEntry paths) := by
  rcases provideDefaultConfig_run env options paths session with
    ⟨error, failed⟩ | ⟨unforced, there, found⟩ |
      ⟨location, targets, writable, _, ⟨fits, written⟩ | ⟨_, _, stopped⟩⟩
  · cases failed.symm.trans run
  · cases found.symm.trans run
    left
    exact ⟨unforced, there, rfl⟩
  · cases written.symm.trans run
    right
    exact ⟨location, targets, writable, fits, rfl⟩
  · cases stopped.symm.trans run

/-- Once the default configuration has been provided, it is there. -/
theorem pathExists_of_provided
    (run : (provideDefaultConfig env options paths).runOn session = (.ok (), left)) :
    left.files.pathExists env.workingDirectory paths.defaultConfig = true := by
  rcases provideDefaultConfig_ok run with
    ⟨_, there, rfl⟩ | ⟨location, targets, writable, _, rfl⟩
  · exact there
  · exact (Session.record_alike env _ _).grows.pathExists
      (targets.pathExists_patchAt writable.free _)

end DefaultConfig

theorem findArchive_run (env : Environment) (options : SetupOptions) (paths : InstallPaths)
    (session : Session) :
    (findArchive env options paths).runOn session =
      if Unpack.isNeeded env session.files paths.marker options.force = true then
        (Unpack.locateArchive env options.javaModule paths.distribution paths.directory).runOn
          session
      else
        (.ok (Unpack.expectedArchive env session.files options.javaModule paths.distribution
          paths.directory), session) := by
  split
  · next needed =>
      simp only [findArchive, Task.runOn_bind, Task.runOn_look, needed, ↓reduceIte]
  · next unpacked =>
      simp only [findArchive, Task.runOn_bind, Task.runOn_look, unpacked, Bool.false_eq_true,
        ↓reduceIte]

/-! ## What a preparation may change -/

/-- A path that a run may write to: a safe name, seen from the installation directory. -/
def WritesTo (directory path : Path) : Prop :=
  ∃ name, Zip.isSafeName name = true ∧ path = directory.join ⟨name⟩

section Along

variable {env : Environment} {start : FileTree} {options : SetupOptions} {runtime : Runtime}

theorem introduce_along :
    Task.Keeps (Along env start (WritesTo options.installDir)) (introduce env options runtime) := by
  intro session
  rw [introduce_run]
  exact Along.sayAll (ε := SetupError) _ session

theorem provideDefaultConfig_along :
    Task.Keeps (Along env start (WritesTo options.installDir))
      (provideDefaultConfig env options (pathsFor options runtime)) := by
  have named : WritesTo options.installDir (pathsFor options runtime).defaultConfig :=
    ⟨"beampy.ini", by decide, rfl⟩
  unfold provideDefaultConfig
  refine .bind Along.chains (DefaultConfig.write_along named _ _) ?_
  intro written
  split
  · exact Along.say _ _
  · exact .pure Along.chains _

theorem writesTo_join (relative : Path) (safe : Zip.isSafeName relative.text = true) :
    WritesTo options.installDir (options.installDir.join relative) :=
  ⟨relative.text, safe, rfl⟩

theorem findArchive_along :
    Task.Keeps (Along env start (WritesTo options.installDir))
      (findArchive env options (pathsFor options runtime)) := by
  unfold findArchive
  refine .bind Along.chains (.look Along.chains _) ?_
  intro needed
  split
  · exact Unpack.locateArchive_along writesTo_join _ _
  · exact .look Along.chains _

theorem findDistribution_along :
    Task.Keeps (Along env start (WritesTo options.installDir))
      (findDistribution env options runtime) :=
  .bind Along.chains introduce_along fun _ =>
    .bind Along.chains provideDefaultConfig_along fun _ => findArchive_along

theorem unpackDistribution_along (archive : Path) :
    Task.Keeps (Along env start (WritesTo options.installDir))
      (Unpack.unpackArchive env archive (pathsFor options runtime).marker options.installDir
        options.force) :=
  Unpack.unpackArchive_along writesTo_join _ _ _

/-- Whatever comes of a preparation, it changes nothing but places on the ways of paths that
a run may write to, and the log. -/
theorem prepare_along :
    Task.Keeps (Along env start (WritesTo options.installDir)) (prepare env options runtime) := by
  refine .bind Along.chains findDistribution_along ?_
  intro archive
  refine .bind Along.chains (unpackDistribution_along archive) ?_
  intro outcome
  exact .pure Along.chains archive

end Along

end BridgeSetup.Setup

namespace BridgeSetup

/-! ## A small setup -/

def sampleOptions : SetupOptions where
  installDir := ⟨"d"⟩
  javaModule := ⟨"j"⟩
  snapHome := none
  javaHome := none
  reqArch := none
  reqJava := false
  reqPython := false
  force := false

def sampleRuntime : Runtime :=
  ⟨⟨"python"⟩, "p", "1", "x86_64", 64⟩

/-- A tree with an empty installation directory, a Java module with a distribution of one
empty file `m`, and a symbolic link outside the installation directory. -/
def sampleTree : FileTree :=
  ⟨[(["d"], .directory), (["j"], .directory), (["lib", "j"], .directory),
    (["jpy.p-1.zip", "lib", "j"], .file sampleArchive 0o644), (["l"], .link ⟨"j"⟩)]⟩

end BridgeSetup
