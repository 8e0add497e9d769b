import BridgeSetup.Proofs.Run.Accounts
import BridgeSetup.Proofs.Setup.Configuring
import BridgeSetup.Proofs.Setup.Repetition

/-!
# The architecture check is advice

A setup run is told by the files that it meets (`run_told`), as long as the log does not go to a
file. The required architecture, the machine and the width of its pointers decide what the
architecture check warns about, and nothing else looks at them; what follows the warnings is the
same whatever has been warned about (`run_advised`).
-/

namespace BridgeSetup

open BridgeSetup.Task (Told)

section Steps

variable {env : Environment} (unlogged : env.logFile = none)

/-! ## Archives -/

namespace Unpack

theorem openArchive_told (wrap : ZipError → SetupError) (archive : Path) :
    Told (openArchive env wrap archive) := by
  refine .bind (.look _) fun located => .bind (.ofExcept _) fun location => ?_
  refine .bind (.look _) fun read => .bind (.ofExcept _) fun bytes => ?_
  exact .bind (.ofExcept _) fun entries => .pure _

theorem extractMember_told (archive : Path) (member : String) (directory : Path) :
    Told (extractMember env archive member directory) := by
  refine .bind (openArchive_told _ _) fun opened => ?_
  split
  · exact .throw _
  refine .bind (.look _) fun openable => .bind (.ofExcept _) fun start => ?_
  split
  · exact .throw _
  · exact .bind (.onFiles _ _) fun _ => .pure _

include unlogged

theorem locateArchive_told (javaModule : Path) (distribution : Distribution) (directory : Path) :
    Told (locateArchive env javaModule distribution directory) := by
  refine .bind (.look _) fun isFile => ?_
  split
  · exact .bind (.say unlogged _ _) fun _ => extractMember_told _ _ _
  · exact .look _

theorem unpackEntry_told (wrap : ZipError → SetupError) (archive : Location) (destination : Path)
    (entry : Zip.Entry) : Told (unpackEntry env wrap archive destination entry) := by
  refine .bind (.look _) fun openable => .bind (.ofExcept _) fun start => ?_
  split
  · exact .bind (.say unlogged _ _) fun _ => .pure _
  dsimp only
  split
  · exact .bind (.onFiles _ _) fun _ => .pure _
  refine .bind (.onFiles _ _) fun _ => ?_
  split
  · exact .bind (.onFiles _ _) fun _ => .pure _
  · exact .pure _

theorem unpackEntries_told (wrap : ZipError → SetupError) (archive : Location)
    (destination : Path) (entries : List Zip.Entry) :
    Told (unpackEntries env wrap archive destination entries) := by
  induction entries with
  | nil => exact .pure 0
  | cons entry rest ih =>
      exact .bind (unpackEntry_told unlogged _ _ _ _) fun written => .bind ih fun others => .pure _

theorem unpackArchive_told (archive marker destination : Path) (force : Bool) :
    Told (unpackArchive env archive marker destination force) := by
  have unpacking : Told (unpackListed env archive destination) := by
    refine .bind (.say unlogged _ _) fun _ => .bind (openArchive_told _ _) fun opened => ?_
    refine .bind (unpackEntries_told unlogged _ _ _ _) fun count => ?_
    exact .bind (.say unlogged _ _) fun _ => .pure _
  refine .bind (.look _) fun needed => ?_
  split
  · exact .bind (.say unlogged _ _) fun _ => .pure _
  refine .bind (.look _) fun there => ?_
  split
  · exact .bind (.throw _) fun _ => unpacking
  · exact unpacking

end Unpack

/-! ## Configuring -/

include unlogged

theorem Configure.resolveJavaHome_told {ε : Type} (requested : Option Path) (directory : Path) :
    Told (Configure.resolveJavaHome env requested directory : Task ε (Option Path)) := by
  unfold Configure.resolveJavaHome
  split
  · exact .pure _
  refine .bind (.look _) fun there => ?_
  split
  · exact .bind (.say unlogged _ _) fun _ => .pure _
  · exact .bind (.say unlogged _ _) fun _ => .pure _

theorem Configure.configure_told (paths : InstallPaths) (archive : Path) (options : SetupOptions)
    (installer : Installer) : Told (Configure.configure env paths archive options installer) := by
  have handingOver : Told (Configure.handOver env paths archive options installer) := by
    refine .bind (.note _) fun _ => .bind (.ofReply unlogged _ _) fun writer => ?_
    refine .bind (Configure.resolveJavaHome_told unlogged _ _) fun javaHome => ?_
    exact .bind (.note _) fun _ => .writeConfig unlogged _ _ _
  refine .bind (.look _) fun configured => ?_
  split
  · exact .bind (.say unlogged _ _) fun _ => .pure _
  · exact handingOver

/-! ## The run -/

namespace Setup

theorem provideDefaultConfig_told (options : SetupOptions) (paths : InstallPaths) :
    Told (provideDefaultConfig env options paths) := by
  have writing : Told (DefaultConfig.write env SetupError.io paths.defaultConfig options.snapHome
      options.force) := by
    refine .bind (.look _) fun there => ?_
    split
    · exact .pure _
    · exact .bind (.onFiles _ _) fun _ => .pure _
  refine .bind writing fun written => ?_
  split
  · exact .say unlogged _ _
  · exact .pure _

theorem findArchive_told (options : SetupOptions) (paths : InstallPaths) :
    Told (findArchive env options paths) := by
  refine .bind (.look _) fun needed => ?_
  split
  · exact Unpack.locateArchive_told unlogged _ _ _
  · exact .look _

/-- What a run does once it has said what it warns about. -/
def carryOn (env : Environment) (options : SetupOptions) (runtime : Runtime)
    (installer : Installer) : Task SetupError Int := do
  Task.say env .debug (distributionMessage (pathsFor options runtime).distribution)
  provideDefaultConfig env options (pathsFor options runtime)
  let archive ← findArchive env options (pathsFor options runtime)
  let _ ← Unpack.unpackArchive env archive (pathsFor options runtime).marker options.installDir
    options.force
  Configure.configure env (pathsFor options runtime) archive options installer

theorem carryOn_told (options : SetupOptions) (runtime : Runtime) (installer : Installer) :
    Told (carryOn env options runtime installer) := by
  refine .bind (.say unlogged _ _) fun _ => ?_
  refine .bind (provideDefaultConfig_told unlogged _ _) fun _ => ?_
  refine .bind (findArchive_told unlogged _ _) fun archive => ?_
  refine .bind (Unpack.unpackArchive_told unlogged _ _ _ _) fun outcome => ?_
  exact Configure.configure_told unlogged _ _ _ _

theorem run_told (options : SetupOptions) (runtime : Runtime) (installer : Installer) :
    Told (run env options runtime installer) :=
  .bind (.say unlogged _ _) fun _ => .bind (.sayAll unlogged _) fun _ =>
    carryOn_told unlogged options runtime installer

end Setup

end Steps

/-! ## The warnings -/

namespace Architecture

variable {required : Option String} {machine : String} {is64Bit : Bool}

theorem length_warnings_le : (warnings required machine is64Bit).length ≤ 2 := by
  unfold warnings
  split
  · simp
  · rw [List.length_append]
    split <;> split <;> simp

theorem level_of_mem_warnings {entry : Entry} (warned : entry ∈ warnings required machine is64Bit) :
    entry.level = .warning := by
  unfold warnings at warned
  split at warned
  · cases warned
  · simp only [List.mem_append, List.mem_ite_nil_left, List.mem_ite_nil_right,
      List.mem_singleton] at warned
    rcases warned with ⟨_, rfl⟩ | ⟨_, rfl⟩ <;> rfl

/-- Nothing is warned about exactly when no architecture is required, or when the machine has
the required name and, if it has 64 bits, this is the name of an architecture with 64 bits. -/
theorem warnings_eq_nil_iff :
    warnings required machine is64Bit = [] ↔
      required = none ∨ ∃ name, required = some name ∧
        Text.lowerCase name = Text.lowerCase machine ∧
        (Text.lowerCase name ∈ wideNames ∨ is64Bit = false) := by
  rcases required with _ | name
  · simp [warnings]
  · rcases is64Bit with _ | _ <;> simp [warnings]

end Architecture

namespace Setup

/-- What a run says first. -/
def openingEntry (options : SetupOptions) : Entry :=
  ⟨.info, "installing from Java module '" ++ options.javaModule.text ++ "'"⟩

/-- The architecture check is advice. Whatever architecture is required, and whatever machine and
width of pointers the interpreter reports, a run comes to the same result, the same files and the
same calls, and apart from the warnings of the check it says the same. -/
theorem run_advised (env : Environment) (options : SetupOptions) (runtime : Runtime)
    (installer : Installer) (session : Session) (unlogged : env.logFile = none) :
    ∃ account : Account SetupError Int,
      ∀ (required : Option String) (machine : String) (bits : Nat), ∃ warnings : List Entry,
        (run env { options with reqArch := required }
            { runtime with machine := machine, bits := bits } installer).runOn session =
          (account.result,
            ⟨account.files,
              session.log.logAll ([openingEntry options] ++ warnings ++ account.said),
              session.calls ++ account.calls⟩) ∧
        warnings = Architecture.warnings required machine (bits = 64) ∧
        warnings.length ≤ 2 ∧ (∀ entry ∈ warnings, entry.level = .warning) ∧
        (warnings = [] ↔ required = none ∨ ∃ name, required = some name ∧
          Text.lowerCase name = Text.lowerCase machine ∧
          (Text.lowerCase name ∈ Architecture.wideNames ∨ bits ≠ 64)) := by
  rcases (carryOn_told unlogged options runtime installer).alike session.files with
    ⟨account, tells⟩
  refine ⟨account, ?_⟩
  intro required machine bits
  refine ⟨Architecture.warnings required machine (bits = 64), ?_, rfl,
    Architecture.length_warnings_le, fun _ => Architecture.level_of_mem_warnings, ?_⟩
  · -- What comes after the warnings does not mention what they are about.
    have parts : run env { options with reqArch := required }
        { runtime with machine := machine, bits := bits } installer = (do
          Task.sayAll env [openingEntry options]
          Task.sayAll env (Architecture.warnings required machine (bits = 64))
          carryOn env options runtime installer) := rfl
    let warned := session.recordAll env
      ([openingEntry options] ++ Architecture.warnings required machine (bits = 64))
    have warning : (run env { options with reqArch := required }
        { runtime with machine := machine, bits := bits } installer).runOn session =
          (carryOn env options runtime installer).runOn warned := by
      rw [parts, Task.runOn_bind, Task.runOn_sayAll]
      simp only [Task.runOn_bind, Task.runOn_sayAll, warned, Session.recordAll_append]
    rw [warning, tells warned (session.recordAll_files unlogged _), Account.leave,
      session.recordAll_log, session.recordAll_calls, ← Logger.logAll_append]
  · rw [Architecture.warnings_eq_nil_iff]
    simp

theorem run_advised_sample :
    sampleEnvironment.logFile = none ∧
    ∃ account : Account SetupError Int,
      ∀ (required : Option String) (machine : String) (bits : Nat), ∃ warnings : List Entry,
        (run sampleEnvironment { sampleOptions with reqArch := required }
            { sampleRuntime with machine := machine, bits := bits } sampleInstaller).runOn
              (.start sampleTree .debug) =
          (account.result,
            ⟨account.files,
              (Logger.empty .debug).logAll
                ([openingEntry sampleOptions] ++ warnings ++ account.said),
              account.calls⟩) ∧
        (warnings = [] ↔ required = none ∨ ∃ name, required = some name ∧
          Text.lowerCase name = Text.lowerCase machine ∧
          (Text.lowerCase name ∈ Architecture.wideNames ∨ bits ≠ 64)) := by
  rcases run_advised sampleEnvironment sampleOptions sampleRuntime sampleInstaller
    (.start sampleTree .debug) rfl with ⟨account, advised⟩
  refine ⟨rfl, account, ?_⟩
  intro required machine bits
  rcases advised required machine bits with ⟨warnings, ends, _, _, _, silent⟩
  exact ⟨warnings, ends, silent⟩

end Setup

end BridgeSetup
