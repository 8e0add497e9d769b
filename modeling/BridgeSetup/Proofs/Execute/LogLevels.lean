import BridgeSetup.Proofs.Setup.Advice
import BridgeSetup.Setup.Execute

/-!
# The log level

The minimum level of the log decides which messages are kept, and nothing else: carrying out a
command line is told by the files that it starts from (`exists_account`), so with any minimum
level it comes to the same status, files and calls, and its log is what the least severe minimum
keeps, without the messages below the level (`execute_of_level`).
-/

namespace BridgeSetup

open BridgeSetup.Task (Told)

/-! ## Accounts of the steps before the setup -/

section Steps

variable {env : Environment} (unlogged : env.logFile = none)

include unlogged

namespace Interpreter

theorem findAmong_told (names : List String) : Told (findAmong env names) := by
  induction names with
  | nil => exact .throw _
  | cons name others ih =>
      refine .bind (.look _) fun searched => ?_
      split
      · exact .bind (.say unlogged _ _) fun _ => .pure _
      · exact .bind (.say unlogged _ _) fun _ => ih

theorem find_told (requested : Option Path) : Told (find env requested) := by
  unfold find
  split
  · exact findAmong_told unlogged candidates
  refine .bind (.look _) fun isFile => ?_
  split
  · exact .pure _
  refine .bind (.look _) fun searched => ?_
  split
  · exact .pure _
  · exact .throw _

omit unlogged in
theorem start_told {ε : Type} (wrap : IoError → ε) (program : Path) (arguments : List String) :
    Told (start env wrap program arguments) :=
  .bind (.look _) fun _ => .bind (.putFiles _) fun _ => .bind (.note _) fun _ => .ofExcept _

theorem probe_told (executable : Path) : Told (probe env executable) := by
  have reading (finished : Finished) : Told (do
      let runtime ← Task.ofExcept
        (Runtime.ofProbeOutput executable (Utf8.decodeLossy finished.stdout))
      Task.say env .info
        ("using Python " ++ runtime.version ++ " (" ++ runtime.platform ++ ", " ++
          toString runtime.bits ++ " bit) at '" ++ runtime.executable.text ++ "'")
      return runtime) :=
    .bind (.ofExcept _) fun _ => .bind (.say unlogged _ _) fun _ => .pure _
  unfold probe
  refine .bind (.say unlogged _ _) fun _ => .bind (start_told _ _ _) fun finished => ?_
  refine .bind (.sayAll unlogged _) fun _ => ?_
  dsimp only
  split
  · exact .bind (.throw _) fun _ => reading finished
  · exact reading finished

end Interpreter

namespace Execute

open CommandLine (Arguments)

theorem loadSettings_told (directory : Path) : Told (loadSettings env directory) := by
  refine .bind (.look _) fun loaded => ?_
  split
  · exact .pure _
  · exact .bind (.say unlogged _ _) fun _ => .pure _

theorem runWith_told (arguments : Arguments) (directory : Path) (settings : Settings) :
    Told (runWith env arguments directory settings) := by
  refine .bind (.mapError (Interpreter.find_told unlogged _)) fun python => ?_
  refine .bind (.mapError (Interpreter.probe_told unlogged _)) fun runtime => ?_
  exact Setup.run_told unlogged _ _ _

theorem attempt_told (arguments : Arguments) : Told (attempt env arguments) := by
  refine .bind (.ofExcept _) fun directory => .bind (.say unlogged _ _) fun _ => ?_
  refine .bind (loadSettings_told unlogged _) fun settings => ?_
  exact runWith_told unlogged _ _ _

/-- The files that a command line starts from decide what it comes to. -/
theorem exists_account (arguments : Arguments) (files : FileTree) :
    ∃ (status : Int) (account : Account SetupError Int), ∀ session : Session,
      session.files = files → execute env arguments session = (status, account.leave session) := by
  rcases (attempt_told unlogged arguments).alike files with ⟨account, tells⟩
  let concluding := (conclude account.result).2
  refine ⟨(conclude account.result).1, { account with said := account.said ++ concluding }, ?_⟩
  intro session starts
  rw [execute, tells session starts]
  simp only [Session.recordAll_of_unlogged _ unlogged, Account.leave, concluding,
    Logger.logAll_append]

end Execute

end Steps

/-! ## Runs with different levels -/

namespace Execute

open CommandLine (Arguments)

/-- The minimum level of the log is a filter. Whatever it is, a command line comes to the same
exit status, the same files and the same calls as with the least severe one, and its log is the
other one's without the messages below the level. -/
theorem execute_of_level (env : Environment) (arguments : Arguments) (files : FileTree)
    (level : Level) (unlogged : env.logFile = none) :
    let run := execute env arguments (.start files level)
    let full := execute env arguments (.start files .debug)
    run.1 = full.1 ∧ run.2.files = full.2.files ∧ run.2.calls = full.2.calls ∧
      run.2.log.entries = full.2.log.entries.filter (level ≤ ·.level) ∧
      run.2.log.lines = (full.2.log.entries.filter (level ≤ ·.level)).map Entry.line := by
  intro run full
  rcases exists_account unlogged arguments files with ⟨status, account, tells⟩
  have runs : run = (status, account.leave (.start files level)) := tells _ rfl
  have runsFull : full = (status, account.leave (.start files .debug)) := tells _ rfl
  have kept (minimum : Level) : (account.leave (.start files minimum)).log.entries =
      account.said.filter (minimum ≤ ·.level) := by
    rw [Account.leave, Logger.entries_logAll]
    rfl
  -- Every level is at least the least severe one.
  have keptAll : (account.leave (.start files .debug)).log.entries = account.said := by
    rw [kept, List.filter_eq_self]
    intro entry _
    exact decide_eq_true (Nat.zero_le _)
  have filtered : run.2.log.entries = full.2.log.entries.filter (level ≤ ·.level) := by
    rw [runs, runsFull, kept, keptAll]
  refine ⟨?_, ?_, ?_, filtered, ?_⟩
  · rw [runs, runsFull]
  · rw [runs, runsFull]
    rfl
  · rw [runs, runsFull]
    rfl
  · rw [Logger.lines, filtered]

def sampleArguments : Arguments where
  snapHome := none
  reqArch := none
  javaModule := ⟨"j"⟩
  javaHome := none
  python := none
  installDir := some ⟨"d"⟩
  logFile := none
  logLevel := .debug
  reqJava := false
  reqPython := false
  force := false

theorem execute_of_level_sample :
    sampleEnvironment.logFile = none ∧
    (let run := execute sampleEnvironment sampleArguments (.start sampleTree .error)
      let full := execute sampleEnvironment sampleArguments (.start sampleTree .debug)
      run.1 = full.1 ∧ run.2.files = full.2.files ∧ run.2.calls = full.2.calls ∧
        run.2.log.entries = full.2.log.entries.filter (Level.error ≤ ·.level) ∧
        full.2.log.entries.length = 5 ∧ run.2.log.entries.length = 1) := by
  rcases execute_of_level sampleEnvironment sampleArguments sampleTree .error rfl with
    ⟨status, files, calls, entries, _⟩
  refine ⟨rfl, status, files, calls, entries, ?_⟩
  decide +kernel

end Execute

end BridgeSetup
