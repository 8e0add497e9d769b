import BridgeSetup.Proofs.Setup.Gating
import BridgeSetup.Setup.Execute

/-!
# What a command line comes to

A command line first settles what is to be configured (`settle`), and then configures it with
the installer that runs in the interpreter. There are five ways in which this can end, and
`ComesTo` tells for each of them what has led there: a step before the configuration failed,
there was nothing to configure, the installer module is no regular file, the interpreter did
not start, or the installer has run to its end. One of them applies to every command line
(`exists_comesTo`), and it determines the result (`ComesTo.result_eq`).
-/

namespace BridgeSetup

open BridgeSetup.Task (Modest)

/-! ## Settling what is to be configured -/

section Steps

variable {env : Environment}

theorem Finished.mild_entries (name : String) (finished : Finished) :
    Mild (finished.entries name) := by
  have streams (title : String) (output : Bytes) : Mild (streamEntries title output) := by
    simp only [streamEntries]
    split
    · exact .nil
    · exact .single (by decide) _
  have command : Mild [⟨.debug, "COMMAND: " ++ name ++ " (exit code: " ++
      finished.exit.shown ++ ")"⟩] := .single (by decide) _
  exact (command.append (streams _ _)).append (streams _ _)

namespace Interpreter

theorem findAmong_modest (names : List String) :
    Modest (fun _ => True) (findAmong env names) := by
  induction names with
  | nil => exact .throw trivial
  | cons name others ih =>
      refine .bind (.look _) fun searched => ?_
      split
      · exact .bind (.say env (by decide) _) fun _ => .pure _
      · exact .bind (.say env (by decide) _) fun _ => ih

theorem find_modest (requested : Option Path) :
    Modest (fun _ => True) (find env requested) := by
  unfold find
  split
  · exact findAmong_modest candidates
  refine .bind (.look _) fun isFile => ?_
  split
  · exact .pure _
  refine .bind (.look _) fun searched => ?_
  split
  · exact .pure _
  · exact .throw trivial

theorem probe_modest (executable : Path) :
    Modest (fun _ => True) (probe env executable) := by
  have starting : Modest (fun _ => True) (start env (DiscoveryError.notStarted executable)
      executable ["-c", probeScript]) := by
    refine .bind (.look _) fun attempt => ?_
    refine .bind (.putFiles _) fun _ => .bind (.note _) fun _ => ?_
    exact .ofMapError (fun _ => trivial) _
  have reading (finished : Finished) : Modest (fun _ => True) (do
      let runtime ← Task.ofExcept
        (Runtime.ofProbeOutput executable (Utf8.decodeLossy finished.stdout))
      Task.say env .info
        ("using Python " ++ runtime.version ++ " (" ++ runtime.platform ++ ", " ++
          toString runtime.bits ++ " bit) at '" ++ runtime.executable.text ++ "'")
      return runtime) :=
    .bind (.ofExcept fun _ _ => trivial) fun _ => .bind (.say env (by decide) _) fun _ => .pure _
  unfold probe
  refine .bind (.say env (by decide) _) fun _ => .bind starting fun finished => ?_
  refine .bind (.sayAll env (finished.mild_entries _)) fun _ => ?_
  dsimp only
  split
  · exact .bind (.throw trivial) fun _ => reading finished
  · exact reading finished

end Interpreter

end Steps

namespace Execute

open CommandLine (Arguments)
open Setup (pathsFor)

/-- What a command line has settled by the time the bridge is to be configured. -/
structure Plan where
  options : SetupOptions
  runtime : Runtime
  /-- The archive of the distribution, which has been unpacked if that was necessary. -/
  archive : Path

namespace Plan

/-- The files of the installation. -/
def paths (plan : Plan) : InstallPaths :=
  pathsFor plan.options plan.runtime

/-- The installer, which runs in the interpreter that has been probed. -/
def installer (env : Environment) (plan : Plan) : Installer :=
  .scripted env plan.runtime.executable

/-- The directory of the installer module. -/
def directory (plan : Plan) : Path :=
  plan.paths.installerModule.parent.getD ⟨"."⟩

/-- What the interpreter is given to run when the installer is asked for something. -/
def command (plan : Plan) (request : WriteRequest) : List String :=
  Installer.arguments plan.directory "jpyutil" request

/-- The installer once it has been loaded. -/
def writer (env : Environment) (plan : Plan) : ConfigWriter :=
  Installer.writer env plan.runtime.executable plan.directory "jpyutil"

end Plan

/-- All that a command line does before it configures the bridge. -/
def settle (env : Environment) (arguments : Arguments) : Task SetupError Plan := do
  let directory ← Task.ofExcept (resolveInstallDir env arguments.installDir)
  Task.say env .debug ("installation directory: " ++ directory.text)
  let settings ← loadSettings env directory
  let python ← Task.mapError .discovery
    (Interpreter.find env (arguments.python.or settings.python))
  let runtime ← Task.mapError .discovery (Interpreter.probe env python)
  let options := SetupOptions.ofArguments arguments directory settings
  let archive ← Setup.prepare env options runtime
  return ⟨options, runtime, archive⟩

theorem attempt_eq (env : Environment) (arguments : Arguments) :
    attempt env arguments = settle env arguments >>= fun plan =>
      Configure.configure env plan.paths plan.archive plan.options (plan.installer env) := by
  simp [attempt, runWith, settle, Setup.run_eq, Plan.paths, Plan.installer]

/-- Nothing that is settled fails for want of the installer, and no errors are logged. -/
theorem settle_modest (env : Environment) (arguments : Arguments) :
    Modest (fun error => ∀ module archive, error ≠ .missingInstaller module archive)
      (settle env arguments) := by
  have placed (error : SetupError)
      (failed : resolveInstallDir env arguments.installDir = .error error) :
      ∀ module archive, error ≠ .missingInstaller module archive := by
    rintro module archive rfl
    unfold resolveInstallDir at failed
    split at failed
    · cases failed
    · split at failed <;> cases failed
  have discovered : ∀ error module archive,
      SetupError.discovery error ≠ .missingInstaller module archive := by simp
  have loading (directory : Path) : Modest
      (fun error => ∀ module archive, error ≠ SetupError.missingInstaller module archive)
      (loadSettings env directory) := by
    refine .bind (.look _) fun loaded => ?_
    split
    · exact .pure _
    · exact .bind (.say env (by decide) _) fun _ => .pure _
  unfold settle
  refine .bind (.ofExcept placed) fun directory => .bind (.say env (by decide) _) fun _ => ?_
  refine .bind (loading directory) fun settings => ?_
  refine .bind (.mapError discovered (Interpreter.find_modest _)) fun python => ?_
  refine .bind (.mapError discovered (Interpreter.probe_modest _)) fun runtime => ?_
  exact .bind (Setup.prepare_modest _ _) fun archive => .pure _

/-! ## Asking the installer -/

namespace Plan

variable {env : Environment} {plan : Plan}

theorem fileStem_installerModule (plan : Plan) :
    plan.paths.installerModule.fileStem = some "jpyutil" := by
  have named : plan.paths.installerModule.fileName = some "jpyutil.py" :=
    Path.fileName_child _ (by decide) (by decide)
  rw [Path.fileStem, named]
  decide

theorem load_of_isFile {tree : FileTree}
    (there : tree.isFile env.workingDirectory plan.paths.installerModule = true) :
    ∃ said, (plan.installer env).load plan.paths.installerModule tree =
      ⟨.ok (plan.writer env), tree, said, []⟩ := by
  simp only [installer, Installer.scripted, fileStem_installerModule, there, ↓reduceIte]
  exact ⟨_, rfl⟩

theorem load_of_not_isFile {tree : FileTree}
    (absent : tree.isFile env.workingDirectory plan.paths.installerModule = false) :
    (plan.installer env).load plan.paths.installerModule tree =
      ⟨.error (.installerMissing plan.paths.installerModule), tree, [], []⟩ := by
  simp only [installer, Installer.scripted, fileStem_installerModule, absent,
    Bool.false_eq_true, ↓reduceIte]

/-- Loads the installer and finds out what it is to be asked for; all that is left then is to
ask it. -/
def approach (env : Environment) (plan : Plan) : Task SetupError (ConfigWriter × WriteRequest) := do
  Task.note [.load plan.paths.installerModule]
  let writer ← Task.ofReply env (Configure.loadFailure plan.archive)
    ((plan.installer env).load plan.paths.installerModule)
  let javaHome ← Configure.resolveJavaHome env plan.options.javaHome plan.paths.directory
  let request : WriteRequest :=
    ⟨plan.paths.directory, javaHome, plan.options.reqJava, plan.options.reqPython⟩
  Task.note [.write request]
  Task.sayAll env (writer.announcement request)
  return (writer, request)

theorem handOver_eq (env : Environment) (plan : Plan) :
    Configure.handOver env plan.paths plan.archive plan.options (plan.installer env) =
      plan.approach env >>= fun (writer, request) =>
        Task.ofReply env .ofBridge (writer.write request) := by
  simp [Configure.handOver, approach, Task.writeConfig]

theorem approach_of_isFile {session : Session}
    (there : session.files.isFile env.workingDirectory plan.paths.installerModule = true) :
    ∃ request met, (plan.approach env).runOn session = (.ok (plan.writer env, request), met) := by
  rcases load_of_isFile there with ⟨said, loaded⟩
  simp only [approach, Task.runOn_bind, Task.runOn_note, Task.runOn_ofReply, loaded,
    Except.mapError]
  rcases Configure.resolveJavaHome_run env plan.paths plan.options _ with
    ⟨entries, resolving⟩
  rw [resolving]
  exact ⟨_, _, rfl⟩

theorem approach_of_not_isFile {session : Session}
    (absent : session.files.isFile env.workingDirectory plan.paths.installerModule = false) :
    ((plan.approach env).runOn session).1 =
      .error (.missingInstaller plan.paths.installerModule plan.archive) := by
  simp only [approach, Task.runOn_bind, Task.runOn_note, Task.runOn_ofReply,
    load_of_not_isFile absent, Except.mapError, Configure.loadFailure]

theorem write_result (request : WriteRequest) (tree : FileTree) :
    ((plan.writer env).write request tree).result =
      match (env.start tree plan.runtime.executable (plan.command request)).result with
      | .error error => .error (.notStarted (Installer.commandName "jpyutil") error)
      | .ok process => Installer.outcome (Installer.commandName "jpyutil") process := by
  simp only [writer, Installer.writer, Installer.write, command]
  rcases (env.start tree plan.runtime.executable
    (Installer.arguments plan.directory "jpyutil" request)).result with error | process
  · rfl
  · rfl

end Plan

/-! ## The endings -/

/-- How a command line can end. -/
inductive Ending where
  /-- A step before the configuration failed. -/
  | failed (error : SetupError)
  /-- There was nothing to configure. -/
  | configured
  /-- The installer module that the archive should have contained is no regular file. -/
  | unloaded (module archive : Path)
  /-- The interpreter did not start to run the installer. -/
  | unstarted (error : IoError)
  /-- The installer has run. -/
  | finished (process : Finished)

/-- What comes of a command line that ends in this way. -/
def Ending.result : Ending → Except SetupError Int
  | failed error => .error error
  | configured => .ok 0
  | unloaded module archive => .error (.missingInstaller module archive)
  | unstarted error => .error (.bridge (.notStarted (Installer.commandName "jpyutil") error))
  | finished process =>
    (Installer.outcome (Installer.commandName "jpyutil") process).mapError .ofBridge

/-- A command line comes to an ending. The installer meets the files of the session in which
it is asked, which include the log if that goes to a file. -/
inductive ComesTo (env : Environment) (arguments : Arguments) (session : Session) :
    Ending → Prop where
  | failed {error left} (stopped : (settle env arguments).runOn session = (.error error, left)) :
      ComesTo env arguments session (.failed error)
  | configured {plan left} (settled : (settle env arguments).runOn session = (.ok plan, left))
      (idle : ¬ Configure.Needed env plan.paths plan.options left.files) :
      ComesTo env arguments session .configured
  | unloaded {plan left} (settled : (settle env arguments).runOn session = (.ok plan, left))
      (needed : Configure.Needed env plan.paths plan.options left.files)
      (absent : left.files.isFile env.workingDirectory plan.paths.installerModule = false) :
      ComesTo env arguments session (.unloaded plan.paths.installerModule plan.archive)
  | unstarted {plan left request met error}
      (settled : (settle env arguments).runOn session = (.ok plan, left))
      (needed : Configure.Needed env plan.paths plan.options left.files)
      (asked : (plan.approach env).runOn left = (.ok (plan.writer env, request), met))
      (broken : (env.start met.files plan.runtime.executable (plan.command request)).result =
        .error error) :
      ComesTo env arguments session (.unstarted error)
  | finished {plan left request met process}
      (settled : (settle env arguments).runOn session = (.ok plan, left))
      (needed : Configure.Needed env plan.paths plan.options left.files)
      (asked : (plan.approach env).runOn left = (.ok (plan.writer env, request), met))
      (ended : (env.start met.files plan.runtime.executable (plan.command request)).result =
        .ok process) :
      ComesTo env arguments session (.finished process)

section Endings

variable {env : Environment} {arguments : Arguments} {session : Session}

theorem exists_comesTo (env : Environment) (arguments : Arguments) (session : Session) :
    ∃ ending, ComesTo env arguments session ending := by
  rcases settled : (settle env arguments).runOn session with ⟨error | plan, left⟩
  · exact ⟨_, .failed settled⟩
  by_cases needed : Configure.Needed env plan.paths plan.options left.files
  · rcases there : left.files.isFile env.workingDirectory plan.paths.installerModule with _ | _
    · exact ⟨_, .unloaded settled needed there⟩
    rcases Plan.approach_of_isFile there with ⟨request, met, asked⟩
    rcases answer : (env.start met.files plan.runtime.executable
        (plan.command request)).result with error | process
    · exact ⟨_, .unstarted settled needed asked answer⟩
    · exact ⟨_, .finished settled needed asked answer⟩
  · exact ⟨_, .configured settled needed⟩

theorem attempt_of_needed {plan : Plan} {left : Session}
    (settled : (settle env arguments).runOn session = (.ok plan, left))
    (needed : Configure.Needed env plan.paths plan.options left.files) :
    (attempt env arguments).runOn session = (plan.approach env >>= fun (writer, request) =>
      Task.ofReply env .ofBridge (writer.write request)).runOn left := by
  have busy : ¬ (!plan.options.force && plan.paths.isConfigured left.files
      env.workingDirectory) = true := by
    rwa [← Configure.not_needed_iff, not_not]
  rw [attempt_eq, Task.runOn_bind_of_ok settled, Configure.configure_run, if_neg busy,
    Plan.handOver_eq]

theorem attempt_of_asked {plan : Plan} {left met : Session} {request : WriteRequest}
    (settled : (settle env arguments).runOn session = (.ok plan, left))
    (needed : Configure.Needed env plan.paths plan.options left.files)
    (asked : (plan.approach env).runOn left = (.ok (plan.writer env, request), met)) :
    ((attempt env arguments).runOn session).1 =
      ((plan.writer env).write request met.files).result.mapError .ofBridge := by
  rw [attempt_of_needed settled needed, Task.runOn_bind_of_ok asked, Task.runOn_ofReply]

/-- The ending of a command line determines its result. -/
theorem ComesTo.result_eq {ending : Ending} (comes : ComesTo env arguments session ending) :
    ((attempt env arguments).runOn session).1 = ending.result := by
  cases comes with
  | failed stopped =>
      rw [attempt_eq, Task.runOn_bind, stopped]
      rfl
  | configured settled idle =>
      rw [attempt_eq, Task.runOn_bind_of_ok settled, Configure.configure_run,
        if_pos (Configure.not_needed_iff.mp idle)]
      rfl
  | unloaded settled needed absent =>
      have refused := Plan.approach_of_not_isFile absent
      rw [attempt_of_needed settled needed, Task.runOn_bind]
      split
      · next run => simp [run] at refused
      · next run =>
          rw [run] at refused
          exact congrArg _ (Except.error.inj refused)
  | unstarted settled needed asked broken =>
      rw [attempt_of_asked settled needed asked, Plan.write_result, broken]
      rfl
  | finished settled needed asked ended =>
      rw [attempt_of_asked settled needed asked, Plan.write_result, ended]
      rfl

end Endings

end Execute

end BridgeSetup
