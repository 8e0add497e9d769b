import BridgeSetup.Proofs.FileTree.Folding
import BridgeSetup.Proofs.Setup.Configuring
import BridgeSetup.Proofs.Setup.Members

/-!
# The application's own Java runtime

Without a Java home that was asked for, the runtime three levels above the installation directory
is looked up, and its canonical spelling is handed over. What was looked up is found by walking
through the file tree. The canonical spelling names the same place when the path folds back
(`FileTree.FoldsBack`), and need not name anything when it crosses a symbolic link that leads out
of its directory (`resolveJavaHome_linked`).
-/

namespace BridgeSetup.Configure

/-- The Java home that is handed over when none was asked for, in a file tree as seen from the
directory `here`. -/
structure HandsOver (here : Location) (tree : FileTree) (installDir : Path)
    (home : Option Path) : Prop where
  none_iff : home = none ↔ tree.pathExists here (bundledRuntime installDir) = false
  spelled : ∀ path, home = some path → path = (bundledRuntime installDir).normalize
  same : tree.FoldsBack here (bundledRuntime installDir) → ∀ path, home = some path →
    tree.pathExists here path = true ∧
      tree.locate here path = tree.locate here (bundledRuntime installDir)

/-- Nothing is handed over exactly when there is no runtime. Otherwise its canonical spelling is,
and it names that runtime if the path folds back. -/
theorem resolveJavaHome_handsOver {ε : Type} (env : Environment) (installDir : Path)
    (session : Session) :
    ∃ home after, (resolveJavaHome env none installDir : Task ε (Option Path)).runOn session =
        (.ok home, after) ∧
      HandsOver env.workingDirectory session.files installDir home := by
  rcases @resolveJavaHome_bundled ε env installDir session with ⟨entry, run⟩
  refine ⟨_, _, run, ?_⟩
  rcases there : session.files.pathExists env.workingDirectory
      (bundledRuntime installDir) with _ | _
  · exact ⟨by simp [there], by simp, by simp⟩
  · refine ⟨by simp [there], by simp, ?_⟩
    intro folds path isHome
    simp only [↓reduceIte, Option.some.injEq] at isHome
    subst isHome
    rcases FileTree.pathExists_iff.mp there with ⟨location, located, present⟩
    have again := FileTree.locate_normalize_of_foldsBack folds located
    refine ⟨FileTree.pathExists_iff.mpr ⟨location, again, present⟩, ?_⟩
    rw [again, located]

/-! ## Symbolic links on the way -/

/-- The installation directory `m/b` is a symbolic link to its neighbour `m/v`, and the runtime
`jre` is at the root. -/
def neighbourFiles : FileTree :=
  ⟨[(["m"], .directory), (["v", "m"], .directory), (["b", "m"], .link ⟨"v"⟩),
    (["jre"], .directory)]⟩

theorem neighbourFiles_foldsBack : neighbourFiles.FoldsBack [] (bundledRuntime ⟨"m/b"⟩) := by
  intro outer name takes earlier later directory place toDirectory enters
  rcases takes with ⟨_, front, back, parts, kept⟩
  have segments : (bundledRuntime ⟨"m/b"⟩).segments = ["m", "b", "..", "..", "..", "jre"] := by
    decide
  have start : (bundledRuntime ⟨"m/b"⟩).isAbsolute = false := by decide
  rw [segments] at parts
  rw [start] at kept
  simp only [Path.startFrom, start, Bool.false_eq_true, ↓reduceIte] at toDirectory
  have splits : front = ["m", "b"] ∨ front = ["m", "b", ".."] ∨ front = ["m", "b", "..", ".."] := by
    simp only [List.cons_eq_append_iff, List.cons.injEq, String.reduceEq, false_and, and_false,
      true_and, List.nil_eq, List.append_eq_nil_iff, reduceCtorEq, exists_const, or_self, or_false,
      ↓existsAndEq, false_or] at parts
    grind
  -- The first two dots take back `b`, the second ones take back `m`, and the third ones stay.
  rcases splits with rfl | rfl | rfl
  · have names : Path.keptAfter false [] ["m", "b"] = ["b", "m"] := by decide
    rw [names] at kept
    cases kept
    cases toDirectory.eq_of_walk (by decide : neighbourFiles.walk 0 [] ["m"] = .ok ["m"])
    cases enters.eq_of_walk (by decide : neighbourFiles.walk 1 ["m"] ["b"] = .ok ["v", "m"])
    rfl
  · have names : Path.keptAfter false [] ["m", "b", ".."] = ["m"] := by decide
    rw [names] at kept
    cases kept
    cases toDirectory
    cases enters.eq_of_walk (by decide : neighbourFiles.walk 0 [] ["m"] = .ok ["m"])
    rfl
  · have names : Path.keptAfter false [] ["m", "b", "..", ".."] = [] := by decide
    rw [names] at kept
    cases kept

theorem resolveJavaHome_handsOver_sample :
    neighbourFiles.FoldsBack [] (bundledRuntime ⟨"m/b"⟩) ∧
    neighbourFiles.locate [] (bundledRuntime ⟨"m/b"⟩) = .ok ["jre"] ∧
    ∃ after, (resolveJavaHome sampleEnvironment none ⟨"m/b"⟩ : Task SetupError (Option Path)).runOn
        (.start neighbourFiles .debug) = (.ok (some ⟨"../jre"⟩), after) ∧
      neighbourFiles.pathExists [] ⟨"../jre"⟩ = true ∧
      neighbourFiles.locate [] ⟨"../jre"⟩ = .ok ["jre"] := by
  have located : neighbourFiles.locate [] (bundledRuntime ⟨"m/b"⟩) = .ok ["jre"] := by decide
  have there : neighbourFiles.pathExists [] (bundledRuntime ⟨"m/b"⟩) = true := by decide
  have spelling : (bundledRuntime ⟨"m/b"⟩).normalize = ⟨"../jre"⟩ := by decide
  rcases @resolveJavaHome_handsOver SetupError sampleEnvironment ⟨"m/b"⟩
    (.start neighbourFiles .debug) with ⟨home, after, run, none_iff, spelled, same⟩
  rcases home with _ | path
  · cases there.symm.trans (none_iff.mp rfl)
  · rcases same neighbourFiles_foldsBack path rfl with ⟨found, alike⟩
    rw [spelled path rfl, spelling] at run found alike
    exact ⟨neighbourFiles_foldsBack, located, after, run, found, alike.trans located⟩

/-- The installation directory is a symbolic link that leads out of its directory: the runtime
that is found from there is not where the path that is handed over leads. -/
def strayFiles : FileTree :=
  ⟨[(["jre"], .directory), (["opt"], .directory), (["dist", "opt"], .directory),
    (["v1", "dist", "opt"], .directory), (["app"], .directory), (["snap", "app"], .directory),
    (["modules", "snap", "app"], .directory),
    (["beampy", "modules", "snap", "app"], .link ⟨"/opt/dist/v1"⟩)]⟩

theorem resolveJavaHome_linked :
    ((resolveJavaHome sampleEnvironment none ⟨"/app/snap/modules/beampy"⟩ :
        Task SetupError (Option Path)).runOn (.start strayFiles .debug)).1 =
      .ok (some ⟨"/app/jre"⟩) ∧
    strayFiles.locate [] (bundledRuntime ⟨"/app/snap/modules/beampy"⟩) = .ok ["jre"] ∧
    strayFiles.pathExists [] (bundledRuntime ⟨"/app/snap/modules/beampy"⟩) = true ∧
    strayFiles.locate [] ⟨"/app/jre"⟩ = .error (.system .notFound) ∧
    strayFiles.pathExists [] ⟨"/app/jre"⟩ = false := by
  decide +kernel

end BridgeSetup.Configure
