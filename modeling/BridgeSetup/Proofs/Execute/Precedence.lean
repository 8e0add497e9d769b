import BridgeSetup.Proofs.Execute.LogLevels

/-!
# Command line and settings

What the command line says wins over the settings, and settings that cannot be used count as
none. So two outcomes of loading the settings that agree on what the command line leaves open
lead to the same run, except for a warning about settings that are ignored
(`attemptLoading_congr`). The program itself loads the settings from a file
(`attempt_eq_attemptLoading`); the outcome of that is left open here, since nothing else in a
run looks at it.
-/

namespace BridgeSetup

open BridgeSetup.Task (Told)
open CommandLine (Arguments)

namespace Settings

/-- The settings that an outcome of loading leads to: settings that cannot be used count as
none. -/
def usable : Except SettingsError Settings → Settings
  | .ok settings => settings
  | .error _ => .none

/-- What is said about settings that are ignored. -/
def ignoredEntry (error : SettingsError) : Entry :=
  ⟨.warning, "ignoring settings: " ++ error.message⟩

/-- What is said about an outcome of loading. -/
def remarks : Except SettingsError Settings → List Entry
  | .ok _ => []
  | .error error => [ignoredEntry error]

/-- Two settings agree on every default that a command line leaves open. -/
structure AgreeFor (arguments : Arguments) (first second : Settings) : Prop where
  python : arguments.python = .none → second.python = first.python
  javaHome : arguments.javaHome = .none → second.javaHome = first.javaHome
  snapHome : arguments.snapHome = .none → second.snapHome = first.snapHome

namespace AgreeFor

variable {arguments : Arguments} {first second : Settings}

theorem or_eq {α : Type} {given open' other : Option α} (same : given = .none → other = open') :
    given.or other = given.or open' := by
  cases given with
  | none => rw [same rfl]
  | some _ => rfl

/-- The same interpreter is asked for. -/
theorem requested_eq (agree : AgreeFor arguments first second) :
    arguments.python.or second.python = arguments.python.or first.python :=
  or_eq agree.python

theorem options_eq (agree : AgreeFor arguments first second) (directory : Path) :
    SetupOptions.ofArguments arguments directory second =
      SetupOptions.ofArguments arguments directory first := by
  simp only [SetupOptions.ofArguments, or_eq agree.javaHome, or_eq agree.snapHome]

end AgreeFor

end Settings

namespace Execute

/-- Carries out a command line, where settings are loaded in some way or other. -/
def attemptLoading (env : Environment) (arguments : Arguments)
    (load : FileTree → Path → Except SettingsError Settings) : Task SetupError Int := do
  let directory ← Task.ofExcept (resolveInstallDir env arguments.installDir)
  Task.say env .debug ("installation directory: " ++ directory.text)
  let loaded ← Task.look (load · directory)
  Task.sayAll env (Settings.remarks loaded)
  runWith env arguments directory (Settings.usable loaded)

theorem attempt_eq_attemptLoading (env : Environment) (arguments : Arguments) :
    attempt env arguments = attemptLoading env arguments (Settings.loadFor env) := by
  have loading (directory : Path) : loadSettings env directory = (do
      let loaded ← Task.look (Settings.loadFor env · directory)
      Task.sayAll env (Settings.remarks loaded)
      return Settings.usable loaded) := by
    refine congrArg (Task.look _ >>= ·) ?_
    funext loaded
    rcases loaded with error | settings
    · rfl
    · rfl
  simp [attempt, attemptLoading, loading]

/-- From the installation directory on, settings that agree lead to the same steps. -/
theorem runWith_congr {env : Environment} {arguments : Arguments} {first second : Settings}
    (agree : first.AgreeFor arguments second) (directory : Path) :
    runWith env arguments directory second = runWith env arguments directory first := by
  simp only [runWith, agree.requested_eq, agree.options_eq]

/-- What a run says first. -/
def openingEntry (directory : Path) : Entry :=
  ⟨.debug, "installation directory: " ++ directory.text⟩

theorem attemptLoading_of_resolved {env : Environment} {arguments : Arguments} {directory : Path}
    (unlogged : env.logFile = none)
    (resolved : resolveInstallDir env arguments.installDir = .ok directory)
    (load : FileTree → Path → Except SettingsError Settings) (session : Session) :
    (attemptLoading env arguments load).runOn session =
      (runWith env arguments directory (Settings.usable (load session.files directory))).runOn
        (session.recordAll env
          ([openingEntry directory] ++ Settings.remarks (load session.files directory))) := by
  have kept := session.recordAll_files unlogged [openingEntry directory]
  rw [attemptLoading, resolved, session.recordAll_append, ← kept]
  rfl

/-- What is said about the settings of a command line that comes to loading them. -/
def remarksOn (env : Environment) (arguments : Arguments)
    (load : FileTree → Path → Except SettingsError Settings) (files : FileTree) : List Entry :=
  match resolveInstallDir env arguments.installDir with
  | .ok directory => Settings.remarks (load files directory)
  | .error _ => []

/-- The command line wins over the settings, which the program loads from a file. Whatever two
ways of loading them come to, if this is the same for all that the command line leaves open, then
the same interpreter is asked for, the options of the setup are the same, and the two runs have
the same result, leave the same files and make the same calls. They say the same, but for at most
one warning about settings that are ignored. -/
theorem attemptLoading_congr (env : Environment) (arguments : Arguments)
    (first second : FileTree → Path → Except SettingsError Settings) (session : Session)
    (unlogged : env.logFile = none)
    (agree : ∀ directory, resolveInstallDir env arguments.installDir = .ok directory →
      (Settings.usable (first session.files directory)).AgreeFor arguments
        (Settings.usable (second session.files directory))) :
    attempt env arguments = attemptLoading env arguments (Settings.loadFor env) ∧
    (∀ directory, resolveInstallDir env arguments.installDir = .ok directory →
      arguments.python.or (Settings.usable (second session.files directory)).python =
          arguments.python.or (Settings.usable (first session.files directory)).python ∧
        SetupOptions.ofArguments arguments directory
            (Settings.usable (second session.files directory)) =
          SetupOptions.ofArguments arguments directory
            (Settings.usable (first session.files directory))) ∧
    ∃ (account : Account SetupError Int) (earlier later : List Entry),
      ∀ load, load = first ∨ load = second →
        (attemptLoading env arguments load).runOn session =
          (account.result,
            ⟨account.files,
              session.log.logAll (earlier ++ remarksOn env arguments load session.files ++ later),
              session.calls ++ account.calls⟩) ∧
        (remarksOn env arguments load session.files = [] ∨
          ∃ error, remarksOn env arguments load session.files = [Settings.ignoredEntry error]) := by
  refine ⟨attempt_eq_attemptLoading env arguments, ?_, ?_⟩
  · intro directory resolved
    exact ⟨(agree directory resolved).requested_eq, (agree directory resolved).options_eq _⟩
  rcases resolved : resolveInstallDir env arguments.installDir with error | directory
  · -- Without a directory nothing is loaded.
    refine ⟨⟨.error error, session.files, [], []⟩, [], [], ?_⟩
    intro load _
    have unsaid : remarksOn env arguments load session.files = [] := by
      rw [remarksOn, resolved]
    refine ⟨?_, .inl unsaid⟩
    rw [attemptLoading, Task.runOn_bind, resolved, unsaid]
    simp [Task.runOn_ofExcept, Logger.logAll]
  · let settled := Settings.usable (first session.files directory)
    rcases (runWith_told unlogged arguments directory settled).alike session.files with
      ⟨account, tells⟩
    refine ⟨account, [openingEntry directory], account.said, ?_⟩
    intro load either
    have said : remarksOn env arguments load session.files =
        Settings.remarks (load session.files directory) := by
      rw [remarksOn, resolved]
    have onward : runWith env arguments directory
        (Settings.usable (load session.files directory)) =
          runWith env arguments directory settled := by
      rcases either with rfl | rfl
      · rfl
      · exact runWith_congr (agree directory resolved) directory
    refine ⟨?_, ?_⟩
    · rw [attemptLoading_of_resolved unlogged resolved, onward, said,
        tells _ (session.recordAll_files unlogged _), Account.leave, session.recordAll_log,
        session.recordAll_calls, ← Logger.logAll_append]
    · rw [said]
      rcases load session.files directory with error | settings
      · exact .inr ⟨error, rfl⟩
      · exact .inl rfl

/-- A command line that asks for an interpreter itself. -/
def explicitArguments : Arguments :=
  { sampleArguments with python := some ⟨"l"⟩ }

theorem attemptLoading_congr_sample :
    let malformed : Except SettingsError Settings := .error (.malformed ⟨"s"⟩ "")
    let named : Except SettingsError Settings := .ok ⟨some ⟨"python"⟩, none, none⟩
    sampleEnvironment.logFile = none ∧
    (Settings.usable malformed).AgreeFor explicitArguments (Settings.usable named) ∧
    ∃ (account : Account SetupError Int) (earlier later : List Entry),
      (attemptLoading sampleEnvironment explicitArguments fun _ _ => malformed).runOn
          (.start sampleTree .debug) =
        (account.result,
          ⟨account.files,
            (Logger.empty .debug).logAll
              (earlier ++ [Settings.ignoredEntry (.malformed ⟨"s"⟩ "")] ++ later),
            account.calls⟩) ∧
      (attemptLoading sampleEnvironment explicitArguments fun _ _ => named).runOn
          (.start sampleTree .debug) =
        (account.result,
          ⟨account.files, (Logger.empty .debug).logAll (earlier ++ [] ++ later),
            account.calls⟩) := by
  intro malformed named
  have agree : (Settings.usable malformed).AgreeFor explicitArguments (Settings.usable named) := by
    refine ⟨?_, fun _ => rfl, fun _ => rfl⟩
    intro unasked
    cases unasked
  rcases (attemptLoading_congr sampleEnvironment explicitArguments (fun _ _ => malformed)
    (fun _ _ => named) (.start sampleTree .debug) rfl fun _ _ => agree).2.2 with
    ⟨account, earlier, later, tells⟩
  refine ⟨rfl, agree, account, earlier, later, ?_, ?_⟩
  · exact (tells _ (.inl rfl)).1
  · exact (tells _ (.inr rfl)).1

end Execute

end BridgeSetup
