import BridgeSetup.Proofs.Execute.Endings

/-!
# Exit statuses

The exit status of a command line follows from its ending. A command line succeeds with the
status that the installer reports, or when there was nothing to configure, and in no other way
(`attempt_eq_ok_iff`); only an installer module that cannot be loaded has a status of its own
(`attempt_eq_missingInstaller_iff`). Errors are not logged on the way, so that an error is
logged exactly when the status is one of the program's own (`execute_exits`).
-/

namespace BridgeSetup

/-! ## Failures and their statuses -/

namespace SetupError

/-- A failure is that the installer is missing, or has the status of all other failures. -/
theorem exitStatus_cases (error : SetupError) :
    ((∃ module archive, error = .missingInstaller module archive) ∧ error.exitStatus = 20) ∨
      ((∀ module archive, error ≠ .missingInstaller module archive) ∧ error.exitStatus = 10) := by
  cases error with
  | missingInstaller module archive => exact .inl ⟨⟨module, archive, rfl⟩, rfl⟩
  | _ => exact .inr ⟨by simp, rfl⟩

theorem ofBridge_ne_missingInstaller (failure : BridgeError) (module archive : Path) :
    ofBridge failure ≠ .missingInstaller module archive := by
  cases failure <;> simp [ofBridge]

theorem mapError_ofBridge_ne {α : Type} (result : Except BridgeError α) (module archive : Path) :
    result.mapError ofBridge ≠ .error (.missingInstaller module archive) := by
  intro missing
  rcases mapError_eq_error.mp missing with ⟨failure, _, bridged⟩
  exact ofBridge_ne_missingInstaller failure module archive bridged

theorem exitStatus_ofBridge (failure : BridgeError) : (ofBridge failure).exitStatus = 10 := by
  rcases exitStatus_cases (ofBridge failure) with ⟨⟨module, archive, missing⟩, _⟩ | ⟨_, status⟩
  · exact absurd missing (ofBridge_ne_missingInstaller failure module archive)
  · exact status

/-- Only a module that is missing when it is loaded counts as a missing installer. -/
theorem loadFailure_eq_missingInstaller_iff {archive module named : Path}
    {failure : BridgeError} :
    Configure.loadFailure archive failure = .missingInstaller module named ↔
      failure = .installerMissing module ∧ named = archive := by
  cases failure with
  | installerMissing other => simp [Configure.loadFailure, eq_comm]
  | _ => simp [Configure.loadFailure, ofBridge]

theorem report_logs (error : SetupError) : ∃ entry ∈ error.report, entry.level = .error := by
  cases error <;> simp [report]

end SetupError

/-- The last status line of an output has an integer that takes more than 32 bits. -/
def Status.Overflows (output : String) : Prop :=
  ∃ chars value, (Text.lines output).reverse.findSome? value? = some chars ∧
    integer? chars = some value ∧ (value < least ∨ greatest < value)

theorem Status.ofOutput_of_overflows {output : String} (overflows : Overflows output) :
    ofOutput output = none := by
  rcases overflows with ⟨chars, value, last, denoted, outside⟩
  have refused : (least ≤ value && value ≤ greatest) = false := by
    simp only [Bool.and_eq_false_iff, decide_eq_false_iff_not]
    omega
  rw [ofOutput, last, Option.bind_some, parse, denoted, Option.filter_some, refused]
  rfl

theorem Configure.Concludes.refusal_of_missing {env : Environment} {paths : InstallPaths}
    {archive module named : Path} {options : SetupOptions} {installer : Installer}
    {session left : Session}
    (concludes : Concludes env paths archive options installer session
      (.error (.missingInstaller module named)) left) :
    Needed env paths options session.files ∧
      (loading installer paths session).result = .error (.installerMissing module) := by
  generalize ended : Except.error (SetupError.missingInstaller module named) = result at concludes
  cases concludes with
  | skipped idle => cases ended
  | refused needed refusal _ _ =>
      have same := (Except.error.inj ended).symm
      rw [SetupError.loadFailure_eq_missingInstaller_iff] at same
      rw [same.1] at refusal
      exact ⟨needed, refusal⟩
  | answered _ _ _ _ _ _ =>
      exact absurd ended.symm (SetupError.mapError_ofBridge_ne _ module named)

/-! ## What is logged on the way -/

/-- Nothing that a loaded installer has logged is an error. -/
structure ConfigWriter.IsMild (writer : ConfigWriter) : Prop where
  announcement : ∀ request, Mild (writer.announcement request)
  write : ∀ request tree, Mild (writer.write request tree).said

/-- Nothing that an installer has logged is an error, neither while it is loaded nor later. -/
structure Installer.IsMild (installer : Installer) : Prop where
  load : ∀ module tree, Mild (installer.load module tree).said
  loaded : ∀ module tree writer, (installer.load module tree).result = .ok writer →
    writer.IsMild

namespace Installer

variable {env : Environment}

theorem writer_isMild (interpreter directory : Path) (name : String) :
    (writer env interpreter directory name).IsMild where
  announcement request := .single (by decide) _
  write request tree := by
    have warned (result : Except BridgeError Int) :
        Mild (statusWarning (commandName name) result) := by
      unfold statusWarning
      split
      · split
        · exact .nil
        · exact .single (by decide) _
      · exact .nil
    simp only [writer, write]
    split
    · exact .nil
    · exact (Finished.mild_entries _ _).append (warned _)

theorem scripted_isMild (interpreter : Path) : (scripted env interpreter).IsMild where
  load module tree := by
    simp only [scripted]
    split
    · split
      · exact .single (by decide) _
      · exact .nil
    · exact .nil
  loaded module tree loaded succeeded := by
    simp only [scripted] at succeeded
    split at succeeded
    · split at succeeded
      · cases succeeded
        exact writer_isMild _ _ _
      · cases succeeded
    · cases succeeded

end Installer

namespace Configure

open Session (KeepsErrors)

variable {env : Environment} {installer : Installer}

theorem afterReply_keepsErrors {α : Type} (session : Session) {reply : Reply α}
    (mild : Mild reply.said) : KeepsErrors session (session.afterReply env reply) :=
  Session.keepsErrors_recordAll env ⟨reply.files, session.log, _⟩ mild

theorem handOver_keepsErrors (mild : installer.IsMild) (paths : InstallPaths) (archive : Path)
    (options : SetupOptions) :
    Task.Keeps KeepsErrors (handOver env paths archive options installer) := by
  have chains := KeepsErrors.chains
  have noted (calls : List Call) :
      Task.Keeps KeepsErrors (Task.note calls : Task SetupError Unit) := fun _ => rfl
  refine .bind chains (noted _) fun _ => ?_
  have loading : Task.Keeps KeepsErrors (Task.ofReply env (loadFailure archive)
      (installer.load paths.installerModule)) :=
    fun session => afterReply_keepsErrors session (mild.load _ _)
  refine .bind_of_ok chains loading ?_
  intro before writer after loaded
  have writes := mild.loaded _ _ _ (Task.runOn_ofReply_eq_ok loaded).1
  have resolving : Task.Modest (fun _ : SetupError => True)
      (resolveJavaHome env options.javaHome paths.directory) := resolveJavaHome_modest _ _
  refine .bind chains resolving.keepsErrors fun javaHome => .bind chains (noted _) fun _ => ?_
  refine .bind chains ?_ fun _ => ?_
  · intro session
    exact session.keepsErrors_recordAll env (writes.announcement _)
  · intro session
    exact afterReply_keepsErrors session (writes.write _ _)

theorem configure_keepsErrors (mild : installer.IsMild) (paths : InstallPaths) (archive : Path)
    (options : SetupOptions) :
    Task.Keeps KeepsErrors (configure env paths archive options installer) := by
  intro session
  rw [configure_run]
  split
  · exact session.keepsErrors_recordAll env (.single (by decide) _)
  · exact handOver_keepsErrors mild paths archive options session

end Configure

namespace Execute

open CommandLine (Arguments)

variable {env : Environment} {arguments : Arguments} {session : Session}

theorem attempt_keepsErrors (env : Environment) (arguments : Arguments) :
    Task.Keeps Session.KeepsErrors (attempt env arguments) := by
  rw [attempt_eq]
  refine .bind Session.KeepsErrors.chains (settle_modest env arguments).keepsErrors ?_
  intro plan
  exact Configure.configure_keepsErrors (Installer.scripted_isMild _) _ _ _

/-! ## Results and exit statuses -/

/-- The installer of a command line has run and has reported a status. -/
def Reports (env : Environment) (arguments : Arguments) (session : Session) (told : Int) :
    Prop :=
  ∃ process, ComesTo env arguments session (.finished process) ∧
    Status.ofOutput (Utf8.decodeLossy process.stdout) = some told

theorem outcome_eq_ok_iff {command : String} {process : Finished} {told : Int} :
    Installer.outcome command process = .ok told ↔
      Status.ofOutput (Utf8.decodeLossy process.stdout) = some told := by
  unfold Installer.outcome
  split
  · next status reported => simp [reported]
  · next silent =>
      rw [silent]
      split <;> simp

/-- An installer that has run without reporting a status counts as failed. -/
theorem outcome_of_silent {process : Finished} (command : String)
    (silent : Status.ofOutput (Utf8.decodeLossy process.stdout) = none) :
    ∃ failure, Installer.outcome command process = .error failure := by
  rcases outcome : Installer.outcome command process with failure | status
  · exact ⟨failure, rfl⟩
  · rw [outcome_eq_ok_iff, silent] at outcome
    cases outcome

/-- A command line succeeds with what the installer reports, or has nothing to configure. -/
theorem attempt_eq_ok_iff {told : Int} :
    ((attempt env arguments).runOn session).1 = .ok told ↔
      Reports env arguments session told ∨
        ComesTo env arguments session .configured ∧ told = 0 := by
  constructor
  · intro succeeded
    rcases exists_comesTo env arguments session with ⟨ending, comes⟩
    rw [comes.result_eq] at succeeded
    cases ending with
    | configured =>
        cases succeeded
        exact .inr ⟨comes, rfl⟩
    | finished process =>
        rw [Ending.result, mapError_eq_ok, outcome_eq_ok_iff] at succeeded
        exact .inl ⟨process, comes, succeeded⟩
    | _ => cases succeeded
  · rintro (⟨process, comes, told⟩ | ⟨comes, rfl⟩)
    · rw [comes.result_eq, Ending.result, mapError_eq_ok, outcome_eq_ok_iff]
      exact told
    · exact comes.result_eq

/-- The installer counts as missing exactly when its module cannot be loaded. -/
theorem attempt_eq_missingInstaller_iff {module archive : Path} :
    ((attempt env arguments).runOn session).1 = .error (.missingInstaller module archive) ↔
      ComesTo env arguments session (.unloaded module archive) := by
  constructor
  · intro missing
    rcases exists_comesTo env arguments session with ⟨ending, comes⟩
    rw [comes.result_eq] at missing
    cases ending with
    | failed error =>
        cases missing
        cases comes with
        | failed stopped =>
            have others := (settle_modest env arguments).failsOnly _ _ _ stopped
            exact absurd rfl (others module archive)
    | unloaded =>
        cases missing
        exact comes
    | finished process => exact absurd missing (SetupError.mapError_ofBridge_ne _ module archive)
    | _ => cases missing
  · exact ComesTo.result_eq

theorem conclude_of_proper {told : Int} (proper : 0 ≤ told ∧ told ≤ 255) :
    conclude (.ok told) = (told, []) := by
  simp [conclude, isExitStatus, proper]

theorem conclude_of_improper {told : Int} (improper : told < 0 ∨ 255 < told) :
    (conclude (.ok told)).1 = 10 ∧ ∃ entry ∈ (conclude (.ok told)).2, entry.level = .error := by
  have refused : isExitStatus told = false := by
    simp only [isExitStatus, Bool.and_eq_false_iff, decide_eq_false_iff_not]
    omega
  simp [conclude, refused, SetupError.failureStatus]

theorem conclude_of_failure (error : SetupError) :
    (conclude (.error error)).1 = error.exitStatus := rfl

theorem conclude_proper (result : Except SetupError Int) :
    0 ≤ (conclude result).1 ∧ (conclude result).1 ≤ 255 := by
  rcases result with error | told
  · rw [conclude_of_failure]
    rcases error.exitStatus_cases with ⟨_, status⟩ | ⟨_, status⟩
    · simp [status]
    · simp [status]
  by_cases proper : 0 ≤ told ∧ told ≤ 255
  · simpa [conclude_of_proper proper] using proper
  · have improper : told < 0 ∨ 255 < told := by omega
    simp [conclude_of_improper improper]

/-- An error is logged in the end exactly when the result is no proper exit status. -/
theorem execute_errors_iff (env : Environment) (arguments : Arguments) (files : FileTree)
    (minimum : Level) :
    (∃ entry ∈ (execute env arguments (.start files minimum)).2.log.entries,
        entry.level = .error) ↔
      ¬ ∃ told, ((attempt env arguments).runOn (.start files minimum)).1 = .ok told ∧
        0 ≤ told ∧ told ≤ 255 := by
  have kept := attempt_keepsErrors env arguments (.start files minimum)
  rcases ran : (attempt env arguments).runOn (.start files minimum) with ⟨result, left⟩
  rw [ran] at kept
  have quiet : left.errors = [] := kept
  have logged : (execute env arguments (.start files minimum)).2.errors =
      (conclude result).2.filter (·.level = .error) := by
    simp only [execute, ran, Session.errors_recordAll, quiet, List.nil_append]
  have some_iff : (∃ entry ∈ (execute env arguments (.start files minimum)).2.log.entries,
      entry.level = .error) ↔ ∃ entry ∈ (conclude result).2, entry.level = .error := by
    have both := congrArg (· ≠ []) logged
    simpa [Session.errors, List.filter_eq_nil_iff] using both
  rw [some_iff]
  rcases result with error | told
  · simp [conclude, error.report_logs]
  by_cases proper : 0 ≤ told ∧ told ≤ 255
  · simp [conclude_of_proper proper, proper]
  · have improper : told < 0 ∨ 255 < told := by omega
    simp [conclude_of_improper improper, proper]

/-! ## Exit statuses -/

/-- How the exit status of a command line and the errors that are logged follow from what it
comes to. -/
structure ExitsWith (env : Environment) (arguments : Arguments) (session : Session)
    (status : Int) (left : Session) : Prop where
  proper : 0 ≤ status ∧ status ≤ 255
  reported : ∀ told, Reports env arguments session told → 0 ≤ told ∧ told ≤ 255 →
    status = told
  skipped : ComesTo env arguments session .configured → status = 0
  silent : status = 0 → ComesTo env arguments session .configured ∨
    Reports env arguments session 0
  improper : ∀ told, Reports env arguments session told → told < 0 ∨ 255 < told → status = 10
  overflowing : ∀ process, ComesTo env arguments session (.finished process) →
    Status.Overflows (Utf8.decodeLossy process.stdout) → status = 10
  failed : ∀ error, ((attempt env arguments).runOn session).1 = .error error →
    (∀ module archive, ¬ ComesTo env arguments session (.unloaded module archive)) → status = 10
  missing : status = 20 ↔
    (∃ module archive, ComesTo env arguments session (.unloaded module archive)) ∨
      Reports env arguments session 20
  errors : (∃ entry ∈ left.log.entries, entry.level = .error) ↔
    ¬ (ComesTo env arguments session .configured ∨
      ∃ told, Reports env arguments session told ∧ 0 ≤ told ∧ told ≤ 255)

theorem execute_status {result : Except SetupError Int}
    (ran : ((attempt env arguments).runOn session).1 = result) :
    (execute env arguments session).1 = (conclude result).1 := by
  rw [← ran]
  rfl

theorem execute_of_reports {told : Int} (reports : Reports env arguments session told)
    (proper : 0 ≤ told ∧ told ≤ 255) : (execute env arguments session).1 = told := by
  have succeeded := attempt_eq_ok_iff.mpr (.inl reports)
  rw [execute_status succeeded, conclude_of_proper proper]

theorem execute_of_improper {told : Int} (reports : Reports env arguments session told)
    (improper : told < 0 ∨ 255 < told) : (execute env arguments session).1 = 10 := by
  have succeeded := attempt_eq_ok_iff.mpr (.inl reports)
  rw [execute_status succeeded]
  exact (conclude_of_improper improper).1

theorem execute_of_configured (configured : ComesTo env arguments session .configured) :
    (execute env arguments session).1 = 0 := by
  rw [execute_status configured.result_eq]
  rfl

theorem execute_of_unloaded {module archive : Path}
    (unloaded : ComesTo env arguments session (.unloaded module archive)) :
    (execute env arguments session).1 = 20 := by
  rw [execute_status unloaded.result_eq]
  rfl

theorem execute_of_silent {process : Finished}
    (finished : ComesTo env arguments session (.finished process))
    (silent : Status.ofOutput (Utf8.decodeLossy process.stdout) = none) :
    (execute env arguments session).1 = 10 := by
  rcases outcome_of_silent (Installer.commandName "jpyutil") silent with ⟨failure, failed⟩
  have result : (Ending.finished process).result = .error (.ofBridge failure) :=
    mapError_eq_error.mpr ⟨failure, failed, rfl⟩
  rw [execute_status finished.result_eq, result, conclude_of_failure,
    SetupError.exitStatus_ofBridge]

theorem execute_of_error {error : SetupError}
    (failed : ((attempt env arguments).runOn session).1 = .error error)
    (loadable : ∀ module archive, ¬ ComesTo env arguments session (.unloaded module archive)) :
    (execute env arguments session).1 = 10 := by
  rw [execute_status failed, conclude_of_failure]
  rcases error.exitStatus_cases with ⟨⟨module, archive, rfl⟩, _⟩ | ⟨_, status⟩
  · exact absurd (attempt_eq_missingInstaller_iff.mp failed) (loadable module archive)
  · exact status

/-- Every exit status but 10 has an origin that is told apart from all others. -/
theorem origin_of_execute {status : Int} (exits : (execute env arguments session).1 = status)
    (other : status ≠ 10) :
    (∃ module archive, ComesTo env arguments session (.unloaded module archive)) ∧ status = 20 ∨
      Reports env arguments session status ∨
      ComesTo env arguments session .configured ∧ status = 0 := by
  rcases ran : ((attempt env arguments).runOn session).1 with error | told
  · rw [execute_status ran, conclude_of_failure] at exits
    rcases error.exitStatus_cases with ⟨⟨module, archive, rfl⟩, missing⟩ | ⟨_, plain⟩
    · exact .inl ⟨⟨module, archive, attempt_eq_missingInstaller_iff.mp ran⟩,
        exits.symm.trans missing⟩
    · exact absurd (exits.symm.trans plain) other
  rw [execute_status ran] at exits
  by_cases proper : 0 ≤ told ∧ told ≤ 255
  · rw [conclude_of_proper proper] at exits
    subst exits
    exact .inr (attempt_eq_ok_iff.mp ran)
  · have improper : told < 0 ∨ 255 < told := by omega
    exact absurd (exits.symm.trans (conclude_of_improper improper).1) other

theorem execute_eq_twenty_iff :
    (execute env arguments session).1 = 20 ↔
      (∃ module archive, ComesTo env arguments session (.unloaded module archive)) ∨
        Reports env arguments session 20 := by
  constructor
  · intro twenty
    rcases origin_of_execute twenty (by decide) with ⟨unloaded, _⟩ | reports | ⟨_, zero⟩
    · exact .inl unloaded
    · exact .inr reports
    · cases zero
  · rintro (⟨module, archive, unloaded⟩ | reports)
    · exact execute_of_unloaded unloaded
    · exact execute_of_reports reports (by decide)

/-- The result is a proper exit status exactly when it stems from the installer or from there
being nothing to configure. -/
theorem proper_iff :
    (∃ told, ((attempt env arguments).runOn session).1 = .ok told ∧ 0 ≤ told ∧ told ≤ 255) ↔
      ComesTo env arguments session .configured ∨
        ∃ told, Reports env arguments session told ∧ 0 ≤ told ∧ told ≤ 255 := by
  constructor
  · rintro ⟨told, succeeded, proper⟩
    rcases attempt_eq_ok_iff.mp succeeded with reports | ⟨configured, _⟩
    · exact .inr ⟨told, reports, proper⟩
    · exact .inl configured
  · rintro (configured | ⟨told, reports, proper⟩)
    · exact ⟨0, configured.result_eq, by decide⟩
    · exact ⟨told, attempt_eq_ok_iff.mpr (.inl reports), proper⟩

theorem exitsWith_execute (env : Environment) (arguments : Arguments) (files : FileTree)
    (minimum : Level) :
    ExitsWith env arguments (.start files minimum)
      (execute env arguments (.start files minimum)).1
      (execute env arguments (.start files minimum)).2 where
  proper := conclude_proper _
  reported _ reports proper := execute_of_reports reports proper
  skipped configured := execute_of_configured configured
  silent zero := by
    rcases origin_of_execute zero (by decide) with ⟨_, twenty⟩ | reports | ⟨configured, _⟩
    · cases twenty
    · exact .inr reports
    · exact .inl configured
  improper _ reports improper := execute_of_improper reports improper
  overflowing _ finished overflows :=
    execute_of_silent finished (Status.ofOutput_of_overflows overflows)
  failed _ failed loadable := execute_of_error failed loadable
  missing := execute_eq_twenty_iff
  errors := by rw [execute_errors_iff, proper_iff]

/-! ## Other installers -/

/-- A run comes to loading the installer, and its module is not there. -/
def FindsNoInstaller (env : Environment) (options : SetupOptions) (runtime : Runtime)
    (installer : Installer) (session : Session) : Prop :=
  ∃ archive left module, Setup.Loads env options runtime session archive left ∧
    (Configure.loading installer (Setup.pathsFor options runtime) left).result =
      .error (.installerMissing module)

theorem findsNoInstaller_of_run {options : SetupOptions} {runtime : Runtime}
    {installer : Installer} {module archive : Path}
    (missing : ((Setup.run env options runtime installer).runOn session).1 =
      .error (.missingInstaller module archive)) :
    FindsNoInstaller env options runtime installer session := by
  rw [Setup.run_eq, Task.runOn_bind] at missing
  rcases prepared : (Setup.prepare env options runtime).runOn session with ⟨error | found, left⟩
  · rw [prepared] at missing
    cases missing
    have others := (Setup.prepare_modest options runtime).failsOnly _ _ _ prepared
    exact absurd rfl (others module archive)
  rw [prepared] at missing
  have concludes : Configure.Concludes env (Setup.pathsFor options runtime) found options
      installer left _ _ := Configure.configure_concludes found installer left
  rw [missing] at concludes
  rcases concludes.refusal_of_missing with ⟨needed, refusal⟩
  exact ⟨found, left, module, ⟨Setup.readies_iff.mpr prepared, needed⟩, refusal⟩

/-- Whatever the installer, the status of a run that fails depends on whether loading found no
module; what a loaded installer fails with does not matter. -/
theorem exitStatus_of_run {options : SetupOptions} {runtime : Runtime} {installer : Installer}
    {error : SetupError}
    (failed : ((Setup.run env options runtime installer).runOn session).1 = .error error) :
    FindsNoInstaller env options runtime installer session ∧ error.exitStatus = 20 ∨
      ¬ FindsNoInstaller env options runtime installer session ∧ error.exitStatus = 10 := by
  by_cases finds : FindsNoInstaller env options runtime installer session
  · rcases Setup.gated_of_run env options runtime installer session with ⟨made, _, gated⟩
    rw [failed] at gated
    rcases finds with ⟨archive, left, module, loads, refusal⟩
    have refused := gated.refused archive left _ loads refusal
    cases refused
    exact .inl ⟨⟨archive, left, module, loads, refusal⟩, rfl⟩
  · rcases error.exitStatus_cases with ⟨⟨module, archive, rfl⟩, _⟩ | ⟨_, status⟩
    · exact absurd (findsNoInstaller_of_run failed) finds
    · exact .inr ⟨finds, status⟩

/-- The exit status of a command line is proper. It is what the installer reports if that is a
proper status, and zero also when there was nothing to configure; in all other cases it is 20
if the installer module is no regular file when it is to be loaded, and 10 otherwise. An error
is logged exactly in these other cases. A loaded installer cannot bring about the status of a
missing one by failing, whatever its failure is. -/
theorem execute_exits (env : Environment) (arguments : Arguments) (files : FileTree)
    (minimum : Level) :
    ExitsWith env arguments (.start files minimum)
        (execute env arguments (.start files minimum)).1
        (execute env arguments (.start files minimum)).2 ∧
      (∀ failure, (SetupError.ofBridge failure).exitStatus = 10) ∧
      ∀ options runtime installer session error,
        ((Setup.run env options runtime installer).runOn session).1 = .error error →
        FindsNoInstaller env options runtime installer session ∧ error.exitStatus = 20 ∨
          ¬ FindsNoInstaller env options runtime installer session ∧ error.exitStatus = 10 := by
  refine ⟨?_, ?_, ?_⟩
  · exact exitsWith_execute env arguments files minimum
  · exact SetupError.exitStatus_ofBridge
  · intro options runtime installer session error failed
    exact exitStatus_of_run failed

end Execute

end BridgeSetup
