import BridgeSetup.Proofs.FileTree.Landing
import BridgeSetup.Proofs.Setup.Configuring
import BridgeSetup.Proofs.Setup.Preparation

/-!
# A run stays in its installation directory

Whatever a run does by itself, it does below the installation directory: all paths that it
writes to are made of that directory and a name that never climbs above its start. Without
symbolic links below the directory such a path passes only places that are already there,
on the way to the directory, and places below it (`below_of_onWay`).

Nothing is written before it is clear that there is an installation directory, because the
default configuration comes first.
-/

namespace BridgeSetup

namespace FileTree

variable {tree : FileTree} {here : Location} {base : Path} {root : Location}

/-- On the way of a safe name, seen from a directory without symbolic links below it, there
are only directories that exist and places below the directory. -/
theorem below_of_onWay {name : String} {location : Location}
    (resolves : tree.ResolvesTo here base root) (plain : tree.PlainBelow root)
    (safe : Zip.isSafeName name = true) (onWay : tree.OnWay here (base.join ⟨name⟩) location) :
    tree.isDirectoryAt location = true ∨
      ∃ inner outer, location = inner :: (outer ++ root) := by
  rcases front_of_onWay resolves plain safe onWay with directory | ⟨front, _, rfl⟩
  · exact Or.inl directory
  · rcases Path.namesAfter [] front with _ | ⟨first, others⟩
    · exact Or.inl resolves.2
    · exact Or.inr ⟨first, others, rfl⟩

end FileTree

/-! ## Runs -/

/-- An installer whose module is never there. -/
def absentInstaller : Installer where
  load module files := ⟨.error (.installerMissing module), files, [], []⟩

/-- A tree has grown, and but for the log only below a directory: nothing that was there is
gone or of another kind, no symbolic link is new, and whatever is new or holds something
else lies strictly below that directory. -/
structure Contained (env : Environment) (directory : Path) (before after : FileTree) :
    Prop where
  grows : before.Grows after
  inside : ∀ location, after.get? location ≠ before.get? location → env.LogsAt location ∨
    ∃ root, before.ResolvesTo env.workingDirectory directory root ∧
      ∃ inner outer, location = inner :: (outer ++ root)

theorem Contained.of_alike {env : Environment} {directory : Path} {before after : FileTree}
    (alike : before.Alike env.LogsAt after) : Contained env directory before after := by
  refine ⟨alike.grows, ?_⟩
  intro location changed
  left
  by_contra elsewhere
  exact changed (alike.same location elsewhere)

namespace Setup

variable {env : Environment} {options : SetupOptions} {root : Location}

/-- What changes on the ways of paths that a run may write to changes below the
installation directory. -/
theorem contained_of_along {before after : Session}
    (resolves : before.files.ResolvesTo env.workingDirectory options.installDir root)
    (plain : before.files.PlainBelow root)
    (along : Along env before.files (WritesTo options.installDir) before after) :
    Contained env options.installDir before.files after.files := by
  have spreads := along.spreads (.refl before.files)
  refine ⟨spreads.grows, ?_⟩
  intro location changed
  by_contra outside
  simp only [not_or] at outside
  rcases outside with ⟨elsewhere, notBelow⟩
  refine changed (spreads.same location ?_ elsewhere)
  rintro ⟨path, ⟨name, safe, rfl⟩, onWay⟩
  rcases FileTree.below_of_onWay resolves plain safe onWay with directory | below
  · -- What was a directory has stayed one.
    have stays := spreads.grows.isDirectoryAt directory
    simp only [FileTree.isDirectoryAt, decide_eq_true_eq] at directory stays
    exact changed (stays.trans directory.symm)
  · exact notBelow ⟨root, resolves, below⟩

theorem prepare_contained (runtime : Runtime) (session : Session)
    (plain : ∀ root,
      session.files.ResolvesTo env.workingDirectory options.installDir root →
      session.files.PlainBelow root) :
    Contained env options.installDir session.files
      ((prepare env options runtime).runOn session).2.files := by
  let left := session.recordAll env (introduction options runtime)
  have alike : session.files.Alike env.LogsAt left.files := session.recordAll_alike env _
  have named : (⟨"beampy.ini"⟩ : Path).isAbsolute = false := by decide
  have within (found : ∃ root,
      left.files.ResolvesTo env.workingDirectory options.installDir root) :
      Contained env options.installDir session.files
        ((prepare env options runtime).runOn session).2.files := by
    rcases found with ⟨root, resolvesLater⟩
    have resolves := resolvesLater.grow alike.symm.grows
    exact contained_of_along resolves (plain root resolves) (prepare_along session)
  rcases provideDefaultConfig_run env options (pathsFor options runtime) left with
    ⟨error, failed⟩ | ⟨_, there, _⟩ | ⟨location, targets, _⟩
  · have stopped : (prepare env options runtime).runOn session = (.error error, left) := by
      simp only [prepare, findDistribution, Task.runOn_bind, introduce_run]
      rw [failed]
    rw [stopped]
    exact .of_alike alike
  · rcases FileTree.pathExists_iff.mp there with ⟨location, located, _⟩
    exact within (FileTree.resolvesTo_of_locate_join named located)
  · exact within (FileTree.resolvesTo_of_targets_join named targets)

/-- Without symbolic links below the installation directory, whatever a run does until it
configures the bridge is contained in that directory, and from then on only the installer
changes files, and the log. This holds for every outcome of the run. -/
theorem run_contained (env : Environment) (options : SetupOptions) (runtime : Runtime)
    (installer : Installer) (session : Session)
    (plain : ∀ root,
      session.files.ResolvesTo env.workingDirectory options.installDir root →
      session.files.PlainBelow root) :
    Contained env options.installDir session.files
        ((prepare env options runtime).runOn session).2.files ∧
      Configure.Configures env installer (options.installDir.child "jpyutil.py")
        ((prepare env options runtime).runOn session).2
        ((run env options runtime installer).runOn session).2 := by
  refine ⟨prepare_contained runtime session plain, ?_⟩
  rw [run_eq, Task.runOn_bind]
  split
  · next archive left prepared =>
      rw [prepared]
      exact Configure.configure_configures env (pathsFor options runtime) archive options
        installer left
  · next error left stopped =>
      rw [stopped]
      exact Configure.Configures.chains.refl left

theorem run_contained_sample :
    Contained sampleEnvironment sampleOptions.installDir sampleTree
        ((prepare sampleEnvironment sampleOptions sampleRuntime).runOn
          (.start sampleTree .debug)).2.files ∧
      Configure.Configures sampleEnvironment absentInstaller
        (sampleOptions.installDir.child "jpyutil.py")
        ((prepare sampleEnvironment sampleOptions sampleRuntime).runOn
          (.start sampleTree .debug)).2
        ((run sampleEnvironment sampleOptions sampleRuntime absentInstaller).runOn
          (.start sampleTree .debug)).2 := by
  refine run_contained sampleEnvironment sampleOptions sampleRuntime absentInstaller
    (.start sampleTree .debug) ?_
  rintro root ⟨walked, _⟩
  have there : root = ["d"] := by
    have expected : sampleTree.walk maxLinks [] ["d"] = .ok ["d"] := by decide
    exact Except.ok.inj (walked.symm.trans expected)
  subst there
  intro name names target found
  have listed := FileTree.mem_nodes_of_get? (by simp) found
  simp [Session.start, sampleTree] at listed

end Setup

end BridgeSetup
