import BridgeSetup.Proofs.FileTree.Shapes
import BridgeSetup.Proofs.Setup.Gating
import BridgeSetup.Proofs.Setup.Resumption

/-!
# Where the marker stands

Once the marker is there, a run that is not forced does not open the Java module any more. It
still computes where the archive would be, and for that it looks at what the Java module is;
but the archive is only named then, in the report about a missing installer. So two runs for
different Java modules come to the same (`run_marked`).

The two runs log different things. Where the log goes to a file the installer could tell them
apart by it, so there we ask that it does not look at the log.
-/

namespace BridgeSetup

variable {env : Environment}

theorem Environment.OnlyLogs.patchAt {first second : FileTree} {location : Location}
    (logs : env.OnlyLogs first second) (proper : location ≠ []) (patch : FileTree.Patch) :
    env.OnlyLogs (first.patchAt location patch) (second.patchAt location patch) := by
  refine ⟨⟨FileTree.SameShape.set logs.alike.shape location rfl, ?_⟩, ?_⟩
  · intro other elsewhere
    rw [FileTree.get?_patchAt proper, FileTree.get?_patchAt proper, logs.alike.same other elsewhere]
  · intro unlogged
    rw [logs.unlogged unlogged]

theorem Session.record_modeAt? (session : Session) (env : Environment) (entry : Entry)
    (location : Location) :
    (session.record env entry).files.modeAt? location = session.files.modeAt? location := by
  unfold record
  split
  · rcases env.logFile with _ | logFile
    · rfl
    · exact FileTree.modeAt?_writeAt _ _ location
  · rfl

/-- Logging leaves all permission bits as they are. -/
theorem Session.recordAll_modeAt? (session : Session) (env : Environment) (entries : List Entry)
    (location : Location) :
    (session.recordAll env entries).files.modeAt? location = session.files.modeAt? location := by
  unfold recordAll
  induction entries generalizing session with
  | nil => rfl
  | cons entry rest ih =>
      rw [List.foldl_cons, ih, record_modeAt?]

/-! ## Answers of an installer -/

/-- Two answers of an installer are the same, but for what the log holds. -/
structure Reply.OnlyLogs {α : Type} (env : Environment) (first second : Reply α) : Prop where
  result : second.result = first.result
  started : second.started = first.started
  files : env.OnlyLogs first.files second.files

/-- An installer that does not look at the log answers the same when only the log differs. If
the log does not go to a file, there is nothing that could differ. -/
theorem Reply.onlyLogs {α : Type} {ask : FileTree → Reply α} {first second : FileTree}
    (blind : env.logFile ≠ none → ∀ before after, before.Alike env.LogsAt after →
      (ask before).Alike env.LogsAt (ask after))
    (logs : env.OnlyLogs first second) : (ask first).OnlyLogs env (ask second) := by
  by_cases unlogged : env.logFile = none
  · rw [logs.unlogged unlogged]
    exact ⟨rfl, rfl, .refl _⟩
  · have alike := blind unlogged first second logs.alike
    exact ⟨alike.result, alike.started, alike.files, fun none => absurd none unlogged⟩

/-- Two results are the same, but for the archive that is named along with a missing
installer. -/
inductive SameButArchive : Except SetupError Int → Except SetupError Int → Prop where
  | same (result) : SameButArchive result result
  | missingInstaller (module archive other) :
      SameButArchive (.error (.missingInstaller module archive))
        (.error (.missingInstaller module other))

/-- Two runs have come to the same: to the same result but for the named archive, with the same
calls, and to the same files but for the log. -/
structure Concur (env : Environment) (outcome outcome' : Except SetupError Int × Session) :
    Prop where
  result : SameButArchive outcome.1 outcome'.1
  calls : outcome'.2.calls = outcome.2.calls
  files : env.OnlyLogs outcome.2.files outcome'.2.files

namespace Configure

variable {paths : InstallPaths} {archive other : Path} {options : SetupOptions}
  {installer : Installer} {first second last last' : Session}
  {result result' : Except SetupError Int}

theorem loadFailure_sameButArchive (archive other : Path) (failure : BridgeError) :
    SameButArchive (.error (loadFailure archive failure)) (.error (loadFailure other failure)) := by
  cases failure with
  | installerMissing module => exact .missingInstaller module archive other
  | _ => exact .same _

/-- What is needed does not depend on the log. -/
theorem Needed.congr {before after : FileTree} (logs : env.OnlyLogs before after) :
    Needed env paths options after ↔ Needed env paths options before := by
  simp only [Needed, logs.alike.pathExists_eq]

/-- Configuring the bridge comes to the same for another archive, and when only the log
differs. -/
theorem Concludes.concur (blind : env.logFile ≠ none → installer.BlindToLog env)
    (logs : env.OnlyLogs first.files second.files) (calls : second.calls = first.calls)
    (one : Concludes env paths archive options installer first result last)
    (another : Concludes env paths other options installer second result' last') :
    Concur env (result, last) (result', last') := by
  have answer : (loading installer paths first).OnlyLogs env (loading installer paths second) :=
    Reply.onlyLogs (fun logged => (blind logged).load _) logs
  cases one with
  | skipped idle =>
      cases another with
      | skipped _ =>
          refine ⟨.same _, by simp [calls], ?_⟩
          exact (first.record_onlyLogs env _).symm.trans (logs.trans (second.record_onlyLogs env _))
      | refused needed _ _ _ => exact absurd ((Needed.congr logs).mp needed) idle
      | answered needed _ _ _ _ _ => exact absurd ((Needed.congr logs).mp needed) idle
  | refused needed refusal firstCalls files =>
      cases another with
      | skipped idle => exact absurd ((Needed.congr logs).mpr needed) idle
      | refused _ refusalAgain secondCalls filesAgain =>
          cases refusal.symm.trans (answer.result.symm.trans refusalAgain)
          refine ⟨loadFailure_sameButArchive _ _ _, ?_, ?_⟩
          · rw [firstCalls, secondCalls, calls, answer.started]
          · exact files.symm.trans (answer.files.trans filesAgain)
      | answered _ loaded _ _ _ _ => cases refusal.symm.trans (answer.result.symm.trans loaded)
  | @answered writer request met _ needed loaded requested meets firstCalls files =>
      cases another with
      | skipped idle => exact absurd ((Needed.congr logs).mpr needed) idle
      | refused _ refusal _ _ => cases loaded.symm.trans (answer.result.symm.trans refusal)
      | @answered writer' request' met' _ _ loadedAgain requestedAgain meetsAgain secondCalls
          filesAgain =>
          cases loaded.symm.trans (answer.result.symm.trans loadedAgain)
          have sameRequest : request' = request := by
            rw [requested, requestedAgain]
            exact requestIn_congr fun path => answer.files.alike.pathExists_eq _ path
          subst sameRequest
          have metLogs : env.OnlyLogs met met' :=
            meets.symm.trans (answer.files.trans meetsAgain)
          have reply : (writer.write request' met).OnlyLogs env (writer.write request' met') :=
            Reply.onlyLogs (fun logged => (blind logged).write loaded _) metLogs
          refine ⟨?_, ?_, ?_⟩
          · simp only [reply.result]
            exact .same _
          · rw [firstCalls, secondCalls, calls, answer.started, reply.started]
          · exact files.symm.trans (reply.files.trans filesAgain)

end Configure

namespace Setup

variable {options : SetupOptions} {runtime : Runtime} {installer : Installer}
  {paths : InstallPaths} {session first second : Session}

/-! ## The default configuration -/

/-- Writing a file comes to the same when only the log differs, which has the same permission bits
in both trees. -/
theorem writeFile_onlyLogs {first second : FileTree} (logs : env.OnlyLogs first second)
    (modes : ∀ location, second.modeAt? location = first.modeAt? location) (path : Path)
    (contents : Bytes) :
    ((FileTree.writeFile env.workingDirectory path contents env.refusals).runOn second).1 =
        ((FileTree.writeFile env.workingDirectory path contents env.refusals).runOn first).1 ∧
      env.OnlyLogs
        ((FileTree.writeFile env.workingDirectory path contents env.refusals).runOn first).2
        ((FileTree.writeFile env.workingDirectory path contents env.refusals).runOn second).2 := by
  have matching : first.Matches env.refusals (fun _ => True) second := by
    refine ⟨logs.alike.shape, fun _ fresh => absurd trivial fresh, ?_⟩
    intro location
    rw [modes]
    exact .refl _
  have steady := FileTree.writeFile_steady env.workingDirectory path contents first second matching
  refine ⟨steady.1, ?_⟩
  rcases FileTree.writeFile_run first env.refusals env.workingDirectory path contents with
    ⟨error, failed⟩ | ⟨location, targets, writable⟩
  · rcases FileTree.writeFile_run second env.refusals env.workingDirectory path contents with
      ⟨other, failedAgain⟩ | ⟨location, targets, writable⟩
    · rwa [failed, failedAgain]
    · rw [targets.writeFile writable,
        (targets.grow matching.symm.shape.grows).writeFile (matching.symm.writable writable)]
      exact logs.patchAt targets.proper ⟨_, none⟩
  · rw [targets.writeFile writable,
      (targets.grow matching.shape.grows).writeFile (matching.writable writable)]
    exact logs.patchAt targets.proper ⟨_, none⟩

/-- Providing the default configuration comes to the same when only the log differs, which has the
same permission bits in both trees. -/
theorem provideDefaultConfig_onlyLogs (logs : env.OnlyLogs first.files second.files)
    (modes : ∀ location, second.files.modeAt? location = first.files.modeAt? location) :
    ((provideDefaultConfig env options paths).runOn second).1 =
        ((provideDefaultConfig env options paths).runOn first).1 ∧
      env.OnlyLogs ((provideDefaultConfig env options paths).runOn first).2.files
        ((provideDefaultConfig env options paths).runOn second).2.files := by
  have exists_eq := logs.alike.pathExists_eq env.workingDirectory paths.defaultConfig
  by_cases lacks : LacksDefaultConfig env options paths first.files
  · have lacksAgain : LacksDefaultConfig env options paths second.files :=
      lacks.imp_right exists_eq.trans
    have written := writeFile_onlyLogs logs modes paths.defaultConfig
      (defaultConfigPatch options).contents
    rw [provideDefaultConfig_of_lacking lacks, provideDefaultConfig_of_lacking lacksAgain]
    generalize (FileTree.writeFile env.workingDirectory paths.defaultConfig
      (defaultConfigPatch options).contents env.refusals).runOn first.files = wrote,
      (FileTree.writeFile env.workingDirectory paths.defaultConfig
      (defaultConfigPatch options).contents env.refusals).runOn second.files = wroteAgain at written
    rcases wrote with ⟨result, files⟩
    rcases wroteAgain with ⟨resultAgain, filesAgain⟩
    rcases written with ⟨same, onlyLogs⟩
    cases same
    rcases result with error | ⟨⟩
    · exact ⟨rfl, onlyLogs⟩
    · have recorded (before : Session) (files : FileTree) :=
        (before.withFiles files).record_onlyLogs env (wroteEntry paths)
      exact ⟨rfl, (recorded first files).symm.trans (onlyLogs.trans (recorded second filesAgain))⟩
  · simp only [LacksDefaultConfig, not_or, Bool.not_eq_true, Bool.not_eq_false] at lacks
    rw [provideDefaultConfig_of_present lacks.1 lacks.2,
      provideDefaultConfig_of_present lacks.1 (exists_eq.trans lacks.2)]
    exact ⟨rfl, logs⟩

/-! ## Preparing where the marker stands -/

section Prepare

variable (unforced : options.force = false)
  (marked : session.files.pathExists env.workingDirectory (pathsFor options runtime).marker = true)

include unforced marked

/-- Where the marker stands, a preparation provides the default configuration, and then only
computes where the archive would be. -/
theorem prepare_of_marked :
    (prepare env options runtime).runOn session =
      match (provideDefaultConfig env options (pathsFor options runtime)).runOn
        (session.recordAll env (introduction options runtime)) with
      | (.error error, left) => (.error error, left)
      | (.ok (), provided) =>
        (.ok (Unpack.expectedArchive env provided.files options.javaModule
            (pathsFor options runtime).distribution options.installDir),
          provided.record env (alreadyUnpackedEntry (pathsFor options runtime))) := by
  have introducing := introduce_run env options runtime session
  rcases provide : (provideDefaultConfig env options (pathsFor options runtime)).runOn
      (session.recordAll env (introduction options runtime)) with ⟨error | ⟨⟩, provided⟩
  · rw [prepare, findDistribution, Task.runOn_bind, Task.runOn_bind_of_ok introducing,
      Task.runOn_bind, provide]
  · have grows := (@provideDefaultConfig_along env _ options runtime
      (session.recordAll env (introduction options runtime))).grows
    rw [provide] at grows
    have notNeeded : Unpack.isNeeded env provided.files (pathsFor options runtime).marker
        options.force = false := by
      have kept := grows.pathExists
        ((session.recordAll_alike env (introduction options runtime)).grows.pathExists marked)
      simp [Unpack.isNeeded, unforced, kept]
    have find : (findArchive env options (pathsFor options runtime)).runOn provided =
        (.ok (Unpack.expectedArchive env provided.files options.javaModule
          (pathsFor options runtime).distribution options.installDir), provided) := by
      rw [findArchive_run, notNeeded]
      rfl
    have unpack (archive : Path) : (Unpack.unpackArchive env archive
        (pathsFor options runtime).marker options.installDir options.force).runOn provided =
          (.ok .alreadyUnpacked,
            provided.record env (alreadyUnpackedEntry (pathsFor options runtime))) := by
      rw [Unpack.unpackArchive_run, notNeeded]
      rfl
    exact prepare_of_steps provide find (unpack _)

/-- Where the marker stands, a preparation calls nothing, and changes nothing but the default
configuration if there was none, and the log. -/
theorem prepare_of_marked_changes {location : Location} (elsewhere : ¬ env.LogsAt location)
    (changed : ((prepare env options runtime).runOn session).2.files.get? location ≠
      session.files.get? location) :
    session.files.pathExists env.workingDirectory (pathsFor options runtime).defaultConfig =
        false ∧
      session.files.locateTarget env.workingDirectory (pathsFor options runtime).defaultConfig =
        .ok location := by
  have introducing := session.recordAll_alike env (introduction options runtime)
  rw [prepare_of_marked unforced marked] at changed
  rcases there : session.files.pathExists env.workingDirectory
    (pathsFor options runtime).defaultConfig with _ | _
  · refine ⟨rfl, ?_⟩
    rcases provide : (provideDefaultConfig env options (pathsFor options runtime)).runOn
        (session.recordAll env (introduction options runtime)) with ⟨error | ⟨⟩, provided⟩
    · rw [provide] at changed
      exact locateTarget_of_provided provide elsewhere changed
    · rw [provide] at changed
      simp only [(provided.record_alike env _).same location elsewhere] at changed
      exact locateTarget_of_provided provide elsewhere changed
  · rw [provideDefaultConfig_of_present unforced (introducing.grows.pathExists there)] at changed
    simp only [(Session.record_alike env _ _).same location elsewhere] at changed
    exact absurd (introducing.same location elsewhere) changed

/-- A run that finds everything in place says so, and does nothing else. -/
theorem run_of_configured
    (there : session.files.pathExists env.workingDirectory
      (pathsFor options runtime).defaultConfig = true)
    (configured : (pathsFor options runtime).isConfigured session.files env.workingDirectory =
      true) :
    (run env options runtime installer).runOn session =
      (.ok 0, session.recordAll env (idleEntries options runtime)) := by
  have kept := (session.recordAll_alike env (introduction options runtime ++
    [alreadyUnpackedEntry (pathsFor options runtime)])).grows
  have still := InstallPaths.isConfigured_grow configured fun _ => kept.pathExists
  rw [run_eq, Task.runOn_bind_of_ok (prepare_of_prepared unforced there marked),
    Configure.configure_of_configured unforced still]
  simp [idleEntries, Session.recordAll, List.foldl_append]

end Prepare

/-- Where the marker stands, preparations for two Java modules fail alike, or both succeed,
with different archives perhaps. -/
theorem prepare_concur (unforced : options.force = false)
    (marked : session.files.pathExists env.workingDirectory (pathsFor options runtime).marker =
      true) (first second : Path) :
    ∃ left leftAgain, env.OnlyLogs left.files leftAgain.files ∧
      ((∃ error,
        (prepare env { options with javaModule := first } runtime).runOn session =
          (.error error, left) ∧
        (prepare env { options with javaModule := second } runtime).runOn session =
          (.error error, leftAgain)) ∨
      (∃ archive other,
        (prepare env { options with javaModule := first } runtime).runOn session =
          (.ok archive, left) ∧
        (prepare env { options with javaModule := second } runtime).runOn session =
          (.ok other, leftAgain))) := by
  let one : SetupOptions := { options with javaModule := first }
  let another : SetupOptions := { options with javaModule := second }
  let introduced := session.recordAll env (introduction one runtime)
  let introducedAgain := session.recordAll env (introduction another runtime)
  have logs : env.OnlyLogs introduced.files introducedAgain.files :=
    (session.recordAll_onlyLogs env _).symm.trans (session.recordAll_onlyLogs env _)
  have prepareFirst := @prepare_of_marked env one runtime session unforced marked
  have prepareSecond := @prepare_of_marked env another runtime session unforced marked
  have modes : ∀ location,
      introducedAgain.files.modeAt? location = introduced.files.modeAt? location := by
    intro location
    rw [session.recordAll_modeAt?, session.recordAll_modeAt?]
  have agree := @provideDefaultConfig_onlyLogs env one (pathsFor one runtime) _ _ logs modes
  rcases provide : (provideDefaultConfig env one (pathsFor one runtime)).runOn introduced with
    ⟨result, left⟩
  rcases provideAgain : (provideDefaultConfig env one (pathsFor one runtime)).runOn
    introducedAgain with ⟨resultAgain, leftAgain⟩
  -- The default configuration does not depend on the Java module.
  have provideSecond : (provideDefaultConfig env another (pathsFor another runtime)).runOn
      introducedAgain = (resultAgain, leftAgain) := provideAgain
  rw [provide, provideAgain] at agree
  rw [provide] at prepareFirst
  rw [provideSecond] at prepareSecond
  rcases agree with ⟨same, logged⟩
  cases same
  rcases result with error | ⟨⟩
  · exact ⟨left, leftAgain, logged, Or.inl ⟨error, prepareFirst, prepareSecond⟩⟩
  · have recorded (before : Session) :=
      before.record_onlyLogs env (alreadyUnpackedEntry (pathsFor options runtime))
    exact ⟨_, _, (recorded left).symm.trans (logged.trans (recorded leftAgain)),
      Or.inr ⟨_, _, prepareFirst, prepareSecond⟩⟩

/-- Where the marker stands, runs for two Java modules come to the same. -/
theorem run_concur (unforced : options.force = false)
    (marked : session.files.pathExists env.workingDirectory (pathsFor options runtime).marker =
      true)
    (blind : env.logFile ≠ none → installer.BlindToLog env) (first second : Path) :
    Concur env ((run env { options with javaModule := first } runtime installer).runOn session)
      ((run env { options with javaModule := second } runtime installer).runOn session) := by
  have calls := (@prepare_along env session.files { options with javaModule := first } runtime
    session).calls
  have callsAgain := (@prepare_along env session.files { options with javaModule := second } runtime
    session).calls
  rw [run_eq, run_eq, Task.runOn_bind, Task.runOn_bind]
  rcases prepare_concur unforced marked first second with
    ⟨left, leftAgain, logs, ⟨error, prepared, preparedAgain⟩ |
      ⟨archive, other, prepared, preparedAgain⟩⟩
  · rw [prepared] at calls ⊢
    rw [preparedAgain] at callsAgain ⊢
    exact ⟨.same _, callsAgain.trans calls.symm, logs⟩
  · rw [prepared] at calls ⊢
    rw [preparedAgain] at callsAgain ⊢
    exact (Configure.configure_concludes archive installer left).concur blind logs
      (callsAgain.trans calls.symm) (Configure.configure_concludes other installer leftAgain)

/-- After the preparation only the installer changes files, and the log. -/
theorem run_configures (env : Environment) (options : SetupOptions) (runtime : Runtime)
    (installer : Installer) (session : Session) :
    Configure.Configures env installer (pathsFor options runtime).installerModule
      ((prepare env options runtime).runOn session).2
      ((run env options runtime installer).runOn session).2 := by
  rw [run_eq, Task.runOn_bind]
  split
  · next archive left prepared =>
      rw [prepared]
      exact Configure.configure_configures env _ archive options installer left
  · next error left stopped =>
      rw [stopped]
      exact Configure.Configures.chains.refl left

/-- Where the marker stands, the Java module is irrelevant: runs for two Java modules come to
the same, but for the archive that is named along with a missing installer. Until they
configure the bridge they call nothing, and change nothing but the default configuration if
there was none; from then on only the installer changes files. When the default configuration
and the bridge's configuration are there as well, they do nothing at all and succeed. The log
is left aside everywhere. -/
theorem run_marked (env : Environment) (options : SetupOptions) (runtime : Runtime)
    (installer : Installer) (session : Session) (unforced : options.force = false)
    (marked : session.files.pathExists env.workingDirectory (pathsFor options runtime).marker =
      true)
    (blind : env.logFile ≠ none → installer.BlindToLog env) :
    (∀ first second : Path,
      Concur env ((run env { options with javaModule := first } runtime installer).runOn session)
        ((run env { options with javaModule := second } runtime installer).runOn session)) ∧
    (∀ javaModule : Path,
      ((prepare env { options with javaModule := javaModule } runtime).runOn session).2.calls =
          session.calls ∧
      (∀ location, ¬ env.LogsAt location →
        ((prepare env { options with javaModule := javaModule } runtime).runOn
          session).2.files.get? location ≠ session.files.get? location →
        session.files.pathExists env.workingDirectory (pathsFor options runtime).defaultConfig =
            false ∧
          session.files.locateTarget env.workingDirectory
            (pathsFor options runtime).defaultConfig = .ok location) ∧
      Configure.Configures env installer (pathsFor options runtime).installerModule
        ((prepare env { options with javaModule := javaModule } runtime).runOn session).2
        ((run env { options with javaModule := javaModule } runtime installer).runOn session).2 ∧
      (session.files.pathExists env.workingDirectory (pathsFor options runtime).defaultConfig =
          true →
        (pathsFor options runtime).isConfigured session.files env.workingDirectory = true →
        (run env { options with javaModule := javaModule } runtime installer).runOn session =
          (.ok 0, session.recordAll env
            (idleEntries { options with javaModule := javaModule } runtime)))) := by
  refine ⟨?_, ?_⟩
  · exact run_concur unforced marked blind
  · intro javaModule
    refine ⟨(@prepare_along env session.files _ runtime session).calls, ?_,
      run_configures env { options with javaModule := javaModule } runtime installer session, ?_⟩
    · intro location elsewhere changed
      exact @prepare_of_marked_changes env { options with javaModule := javaModule } runtime session
        unforced marked location elsewhere changed
    · intro there configured
      exact @run_of_configured env { options with javaModule := javaModule } runtime installer
        session unforced marked there configured

/-- An installation with the marker, in a tree with a file for the log. -/
def markedTree : FileTree :=
  (sampleTree.set ["jpy.p-1.info", "d"] (.file [] 0o644)).set ["log"] (.file [] 0o644)

def loggingEnvironment : Environment :=
  { sampleEnvironment with logFile := some ⟨["log"], ""⟩ }

theorem run_marked_sample :
    sampleOptions.force = false ∧
    markedTree.pathExists [] (pathsFor sampleOptions sampleRuntime).marker = true ∧
    (loggingEnvironment.logFile ≠ none →
      (settledInstaller (.ok 0)).BlindToLog loggingEnvironment) ∧
    ∀ first second : Path,
      Concur loggingEnvironment
        ((run loggingEnvironment { sampleOptions with javaModule := first } sampleRuntime
          (settledInstaller (.ok 0))).runOn (.start markedTree .debug))
        ((run loggingEnvironment { sampleOptions with javaModule := second } sampleRuntime
          (settledInstaller (.ok 0))).runOn (.start markedTree .debug)) := by
  have marked : markedTree.pathExists [] (pathsFor sampleOptions sampleRuntime).marker = true := by
    decide +kernel
  exact ⟨rfl, marked, fun _ => settledInstaller_blind _,
    (run_marked loggingEnvironment sampleOptions sampleRuntime (settledInstaller (.ok 0))
      (.start markedTree .debug) rfl marked fun _ => settledInstaller_blind _).1⟩

end Setup

end BridgeSetup
