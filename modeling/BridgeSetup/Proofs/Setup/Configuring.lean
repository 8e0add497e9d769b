import BridgeSetup.Proofs.Run.Tasks
import BridgeSetup.Setup.Configure
import Mathlib.Logic.Relation

/-!
# Configuring by the installer

Configuring the bridge is skipped when its configuration is there, and handed over to the
installer otherwise (`configure_run`), which is told a Java home if there is one to be told
(`javaHomeIn`). While it is handed over, the file tree is changed by the installer's two replies
and by the log, and by nothing else (`ConfigureStep`).
-/

namespace BridgeSetup.Configure

/-- What is logged when there is nothing to configure. -/
def skipEntry : Entry :=
  ⟨.debug, "jpy configuration files exist, skipping configuration"⟩

/-- Has the installer configure the bridge. -/
def handOver (env : Environment) (paths : InstallPaths) (archive : Path)
    (options : SetupOptions) (installer : Installer) : Task SetupError Int := do
  Task.note [.load paths.installerModule]
  let writer ← Task.ofReply env (loadFailure archive) (installer.load paths.installerModule)
  let javaHome ← resolveJavaHome env options.javaHome paths.directory
  let request : WriteRequest :=
    ⟨paths.directory, javaHome, options.reqJava, options.reqPython⟩
  Task.note [.write request]
  Task.writeConfig env .ofBridge writer request

theorem configure_run (env : Environment) (paths : InstallPaths) (archive : Path)
    (options : SetupOptions) (installer : Installer) (session : Session) :
    (configure env paths archive options installer).runOn session =
      if (!options.force && paths.isConfigured session.files env.workingDirectory) = true then
        (.ok SetupError.successStatus, session.record env skipEntry)
      else (handOver env paths archive options installer).runOn session := by
  split
  · next skipped =>
      simp only [configure, Task.runOn_bind, Task.runOn_look, skipped, ↓reduceIte,
        Task.runOn_say, Task.runOn_pure, skipEntry]
  · next needed =>
      simp only [configure, handOver, Task.runOn_bind, Task.runOn_look, needed,
        Bool.false_eq_true, ↓reduceIte]

/-- The Java home that an installer is given: the one that was asked for, or else the
application's own runtime if it is among the files. -/
def javaHomeIn (env : Environment) (paths : InstallPaths) (options : SetupOptions)
    (tree : FileTree) : Option Path :=
  match options.javaHome with
  | some home => some home
  | none =>
    if tree.pathExists env.workingDirectory (bundledRuntime paths.directory) then
      some (bundledRuntime paths.directory).normalize
    else none

/-- When no Java home is asked for, it is the application's own runtime if that is there. -/
theorem resolveJavaHome_bundled {ε : Type} (env : Environment) (installDir : Path)
    (session : Session) :
    ∃ entry, (resolveJavaHome env none installDir : Task ε (Option Path)).runOn session =
      (.ok (if session.files.pathExists env.workingDirectory (bundledRuntime installDir)
        then some (bundledRuntime installDir).normalize else none), session.record env entry) := by
  rcases there : session.files.pathExists env.workingDirectory
      (bundledRuntime installDir) with _ | _
  · simp only [resolveJavaHome, Task.runOn_bind, Task.runOn_look, there, Bool.false_eq_true,
      ↓reduceIte, Task.runOn_say, Task.runOn_pure]
    exact ⟨⟨.debug, _⟩, rfl⟩
  · simp only [resolveJavaHome, Task.runOn_bind, Task.runOn_look, there, ↓reduceIte,
      Task.runOn_say, Task.runOn_pure]
    exact ⟨⟨.debug, _⟩, rfl⟩

/-- Resolving the Java home succeeds, and says something at most. -/
theorem resolveJavaHome_run {ε : Type} (env : Environment) (paths : InstallPaths)
    (options : SetupOptions) (session : Session) :
    ∃ entries, (resolveJavaHome env options.javaHome paths.directory :
        Task ε (Option Path)).runOn session =
      (.ok (javaHomeIn env paths options session.files), session.recordAll env entries) := by
  rcases requested : options.javaHome with _ | home
  · rcases @resolveJavaHome_bundled ε env paths.directory session with ⟨entry, run⟩
    rw [run, javaHomeIn, requested]
    exact ⟨[entry], rfl⟩
  · simp only [resolveJavaHome, Task.runOn_pure, javaHomeIn, requested]
    exact ⟨[], rfl⟩

/-- One change of the file tree while the bridge is configured: the log is written, or the
installer replies to being loaded or to being asked for the configuration. -/
inductive ConfigureStep (env : Environment) (installer : Installer) (module : Path) :
    FileTree → FileTree → Prop where
  | log {before after} (logged : before.Alike env.LogsAt after) :
      ConfigureStep env installer module before after
  | load (before) : ConfigureStep env installer module before (installer.load module before).files
  | write {tree writer} (loaded : (installer.load module tree).result = .ok writer) (request)
      (before) : ConfigureStep env installer module before (writer.write request before).files

section Steps

variable {env : Environment} {installer : Installer} {module : Path}

/-- The file trees of two sessions are joined by such changes. -/
def Configures (env : Environment) (installer : Installer) (module : Path)
    (before after : Session) : Prop :=
  Relation.ReflTransGen (ConfigureStep env installer module) before.files after.files

theorem Configures.chains : Task.Chains (Configures env installer module) where
  refl _ := .refl
  trans first second := Relation.ReflTransGen.trans first second

theorem Configures.sayAll {ε : Type} (entries : List Entry) :
    Task.Keeps (Configures env installer module) (Task.sayAll env entries : Task ε Unit) :=
  fun session => .single (.log (session.recordAll_alike env entries))

theorem Configures.note {ε : Type} (calls : List Call) :
    Task.Keeps (Configures env installer module) (Task.note calls : Task ε Unit) :=
  fun _ => .refl

theorem Configures.ofReply {ε α : Type} (wrap : BridgeError → ε) {ask : FileTree → Reply α}
    (replies : ∀ before, ConfigureStep env installer module before (ask before).files) :
    Task.Keeps (Configures env installer module) (Task.ofReply env wrap ask) := by
  intro session
  rw [Task.runOn_ofReply]
  exact .tail (.single (replies session.files)) (.log (session.afterReply_alike env _))

theorem handOver_configures (paths : InstallPaths) (archive : Path) (options : SetupOptions) :
    Task.Keeps (Configures env installer paths.installerModule)
      (handOver env paths archive options installer) := by
  unfold handOver
  refine .bind Configures.chains (Configures.note _) ?_
  intro noted
  refine .bind_of_ok Configures.chains (Configures.ofReply _ .load) ?_
  intro session writer left loaded
  -- The writer is one that the installer has been loaded as.
  have reply := (Task.runOn_ofReply_eq_ok loaded).1
  have resolving : Task.Keeps (Configures env installer paths.installerModule)
      (resolveJavaHome env options.javaHome paths.directory :
        Task SetupError (Option Path)) := by
    intro session
    rcases resolveJavaHome_run env paths options session with ⟨entries, run⟩
    rw [run]
    exact .single (.log (session.recordAll_alike env entries))
  refine .bind Configures.chains resolving ?_
  intro javaHome
  refine .bind Configures.chains (Configures.note _) ?_
  intro noted
  refine .bind Configures.chains (Configures.sayAll _) ?_
  intro said
  exact Configures.ofReply _ (.write reply _)

end Steps

/-- While the bridge is configured, the file tree changes in these steps only. -/
theorem configure_configures (env : Environment) (paths : InstallPaths) (archive : Path)
    (options : SetupOptions) (installer : Installer) :
    Task.Keeps (Configures env installer paths.installerModule)
      (configure env paths archive options installer) := by
  intro session
  rw [configure_run]
  split
  · exact .single (.log (session.record_alike env _))
  · exact handOver_configures paths archive options session

end BridgeSetup.Configure
