import BridgeSetup.Proofs.Setup.Configuring

/-!
# Asking the installer

Configuring the bridge comes to one of three things, and `Concludes` is the record of which:
there is nothing to configure, or the installer cannot be loaded, or it has been loaded and
answers. The record tells the result, the calls that were made, and the files that are left,
all in terms of the installer's own replies (`configure_concludes`).

Between the installer's replies nothing happens to the files, except that the log grows. When
the log does not go to a file, the files that the installer meets are the very ones that were
left before (`OnlyLogs`).
-/

namespace BridgeSetup

/-- Two file trees are the same, but for what the log holds if it goes to a file. -/
structure Environment.OnlyLogs (env : Environment) (before after : FileTree) : Prop where
  alike : before.Alike env.LogsAt after
  unlogged : env.logFile = none → after = before

namespace Environment.OnlyLogs

variable {env : Environment} {first second third : FileTree}

theorem refl (tree : FileTree) : env.OnlyLogs tree tree :=
  ⟨.refl tree, fun _ => rfl⟩

theorem symm (logs : env.OnlyLogs first second) : env.OnlyLogs second first :=
  ⟨logs.alike.symm, fun none => (logs.unlogged none).symm⟩

theorem trans (logs : env.OnlyLogs first second) (further : env.OnlyLogs second third) :
    env.OnlyLogs first third :=
  ⟨logs.alike.trans further.alike,
    fun none => (further.unlogged none).trans (logs.unlogged none)⟩

end Environment.OnlyLogs

namespace Session

variable (env : Environment) (session : Session)

theorem record_onlyLogs (entry : Entry) :
    env.OnlyLogs session.files (session.record env entry).files := by
  refine ⟨session.record_alike env entry, ?_⟩
  intro unlogged
  unfold record
  split
  · simp [unlogged]
  · rfl

theorem recordAll_onlyLogs (entries : List Entry) :
    env.OnlyLogs session.files (session.recordAll env entries).files := by
  unfold recordAll
  induction entries generalizing session with
  | nil => exact .refl session.files
  | cons entry rest ih =>
      rw [List.foldl_cons]
      exact (record_onlyLogs env session entry).trans (ih (session.record env entry))

theorem afterReply_onlyLogs {α : Type} (reply : Reply α) :
    env.OnlyLogs reply.files (session.afterReply env reply).files :=
  recordAll_onlyLogs env ⟨reply.files, session.log, _⟩ reply.said

theorem afterReply_calls {α : Type} (reply : Reply α) :
    (session.afterReply env reply).calls = session.calls ++ reply.started.map .start := by
  simp [afterReply]

end Session

namespace Configure

/-! ## What the installer is asked for -/

/-- What an installer is asked for, with these files before it. -/
def requestIn (env : Environment) (paths : InstallPaths) (options : SetupOptions)
    (tree : FileTree) : WriteRequest :=
  ⟨paths.directory, javaHomeIn env paths options tree, options.reqJava, options.reqPython⟩

/-- The Java home depends on what exists, and on nothing else. -/
theorem requestIn_congr {env : Environment} {paths : InstallPaths} {options : SetupOptions}
    {first second : FileTree}
    (same : ∀ path, second.pathExists env.workingDirectory path =
      first.pathExists env.workingDirectory path) :
    requestIn env paths options second = requestIn env paths options first := by
  simp only [requestIn, javaHomeIn, same]

/-! ## What becomes of a configuration -/

section Conclusion

variable {env : Environment} {paths : InstallPaths} {archive : Path} {options : SetupOptions}
  {installer : Installer} {session : Session}

/-- The answer of an installer that is loaded with a session's files before it. -/
def loading (installer : Installer) (paths : InstallPaths) (session : Session) :
    Reply ConfigWriter :=
  installer.load paths.installerModule session.files

/-- The installer is needed: configuring is forced, or some of the configuration is missing. -/
def Needed (env : Environment) (paths : InstallPaths) (options : SetupOptions)
    (tree : FileTree) : Prop :=
  options.force = true ∨ tree.pathExists env.workingDirectory paths.javaConfig = false ∨
    tree.pathExists env.workingDirectory paths.pythonConfig = false

theorem not_needed_iff {tree : FileTree} :
    ¬ Needed env paths options tree ↔
      (!options.force && paths.isConfigured tree env.workingDirectory) = true := by
  simp [Needed, InstallPaths.isConfigured]

/-- What configuring the bridge comes to: there is nothing to configure, or the installer
refuses to be loaded, or it has been loaded and answers. -/
inductive Concludes (env : Environment) (paths : InstallPaths) (archive : Path)
    (options : SetupOptions) (installer : Installer) (session : Session) :
    Except SetupError Int → Session → Prop where
  | skipped (idle : ¬ Needed env paths options session.files) :
      Concludes env paths archive options installer session (.ok SetupError.successStatus)
        (session.record env skipEntry)
  | refused {failure left} (needed : Needed env paths options session.files)
      (refusal : (loading installer paths session).result = .error failure)
      (calls : left.calls = session.calls ++ .load paths.installerModule ::
        (loading installer paths session).started.map .start)
      (files : env.OnlyLogs (loading installer paths session).files left.files) :
      Concludes env paths archive options installer session
        (.error (loadFailure archive failure)) left
  | answered {writer request met left} (needed : Needed env paths options session.files)
      (loaded : (loading installer paths session).result = .ok writer)
      (requested : request = requestIn env paths options (loading installer paths session).files)
      (meets : env.OnlyLogs (loading installer paths session).files met)
      (calls : left.calls = session.calls ++ .load paths.installerModule ::
        ((loading installer paths session).started.map .start ++ .write request ::
          (writer.write request met).started.map .start))
      (files : env.OnlyLogs (writer.write request met).files left.files) :
      Concludes env paths archive options installer session
        ((writer.write request met).result.mapError .ofBridge) left

theorem handOver_concludes (needed : Needed env paths options session.files) :
    Concludes env paths archive options installer session
      ((handOver env paths archive options installer).runOn session).1
      ((handOver env paths archive options installer).runOn session).2 := by
  let noted : Session := { session with calls := session.calls ++ [.load paths.installerModule] }
  let reply := loading installer paths session
  let loaded := noted.afterReply env reply
  have note : (Task.note [.load paths.installerModule] : Task SetupError Unit).runOn session =
      (.ok (), noted) := rfl
  have load : (Task.ofReply env (loadFailure archive)
      (installer.load paths.installerModule)).runOn noted =
        (reply.result.mapError (loadFailure archive), loaded) := rfl
  have loadedCalls : loaded.calls =
      session.calls ++ .load paths.installerModule :: reply.started.map .start := by
    simp [loaded, noted, Session.afterReply_calls]
  have loadedFiles : env.OnlyLogs reply.files loaded.files :=
    noted.afterReply_onlyLogs env reply
  rw [handOver, Task.runOn_bind_of_ok note]
  rcases answer : reply.result with failure | writer
  · rw [answer] at load
    rw [Task.runOn_bind, load]
    exact .refused needed answer loadedCalls loadedFiles
  rw [answer] at load
  rcases @resolveJavaHome_run SetupError env paths options loaded with ⟨entries, resolving⟩
  let resolved := loaded.recordAll env entries
  let request := requestIn env paths options loaded.files
  let asked : Session := { resolved with calls := resolved.calls ++ [.write request] }
  let announced := asked.recordAll env (writer.announcement request)
  let answered := writer.write request announced.files
  have requested : request = requestIn env paths options reply.files :=
    requestIn_congr fun path => loadedFiles.alike.pathExists_eq _ _
  have meets : env.OnlyLogs reply.files announced.files :=
    (loadedFiles.trans (loaded.recordAll_onlyLogs env entries)).trans
      (asked.recordAll_onlyLogs env _)
  have calls : (announced.afterReply env answered).calls =
      session.calls ++ .load paths.installerModule ::
        (reply.started.map .start ++ .write request :: answered.started.map .start) := by
    simp [Session.afterReply_calls, announced, asked, resolved, loadedCalls]
  rw [Task.runOn_bind_of_ok load, Task.runOn_bind_of_ok resolving]
  exact .answered needed answer requested meets calls (announced.afterReply_onlyLogs env answered)

/-- Configuring the bridge comes to one of these conclusions. -/
theorem configure_concludes (archive : Path) (installer : Installer) (session : Session) :
    Concludes env paths archive options installer session
      ((configure env paths archive options installer).runOn session).1
      ((configure env paths archive options installer).runOn session).2 := by
  rw [configure_run]
  split
  · next skipped => exact .skipped (not_needed_iff.mpr skipped)
  · next needed =>
      exact handOver_concludes (by rwa [← not_needed_iff, not_not] at needed)

end Conclusion

end Configure

end BridgeSetup
