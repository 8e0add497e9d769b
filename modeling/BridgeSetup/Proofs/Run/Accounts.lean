import BridgeSetup.Proofs.Log.ReadingBack
import BridgeSetup.Proofs.Run.Tasks

/-!
# Accounts of steps

When the log does not go to a file, no step can look at it, and no step can look at the calls
that have been made. What a step comes to then depends on the files that it meets and on nothing
else: its result, the files that it leaves, the calls that it makes, and the messages that it
offers to the log, whether the log accepts them or not. An `Account` holds these, and a step that
has an account for every file tree is `Told`.

All that a run is made of is told, since the account of two steps is made of their accounts
(`Told.bind`).
-/

namespace BridgeSetup

/-! ## What a session logs -/

namespace Session

variable {env : Environment} (session : Session)

theorem record_log (entry : Entry) : (session.record env entry).log = session.log.log entry := by
  unfold record Logger.log
  split <;> rfl

theorem recordAll_log (entries : List Entry) :
    (session.recordAll env entries).log = session.log.logAll entries := by
  unfold recordAll Logger.logAll
  induction entries generalizing session with
  | nil => rfl
  | cons entry rest ih => rw [List.foldl_cons, List.foldl_cons, ih, record_log]

/-- A log that does not go to a file leaves the files alone. -/
theorem recordAll_files (unlogged : env.logFile = none) (entries : List Entry) :
    (session.recordAll env entries).files = session.files := by
  unfold recordAll
  induction entries generalizing session with
  | nil => rfl
  | cons entry rest ih =>
      have kept : (session.record env entry).files = session.files := by
        unfold record
        split
        · simp [unlogged]
        · rfl
      rw [List.foldl_cons, ih, kept]

theorem recordAll_of_unlogged (unlogged : env.logFile = none) (entries : List Entry) :
    session.recordAll env entries =
      ⟨session.files, session.log.logAll entries, session.calls⟩ := by
  rw [← recordAll_files session unlogged entries, ← @recordAll_log env session entries,
    ← session.recordAll_calls env entries]

end Session

/-! ## Accounts -/

/-- What a step comes to: its result, the files that it leaves, the calls that it makes, and the
messages that it offers to the log. -/
structure Account (ε α : Type) where
  result : Except ε α
  files : FileTree
  calls : List Call
  said : List Entry

namespace Account

variable {ε ε' α β : Type}

/-- The session that a step with this account leaves. -/
def leave (account : Account ε α) (before : Session) : Session :=
  ⟨account.files, before.log.logAll account.said, before.calls ++ account.calls⟩

/-- The account of a step and another one that is taken if the first one succeeds. -/
def andThen (account : Account ε α) (next : α → FileTree → Account ε β) : Account ε β :=
  match account.result with
  | .error error => ⟨.error error, account.files, account.calls, account.said⟩
  | .ok value =>
    let later := next value account.files
    ⟨later.result, later.files, account.calls ++ later.calls, account.said ++ later.said⟩

theorem leave_quiet (result : Except ε α) (session : Session) :
    (⟨result, session.files, [], []⟩ : Account ε α).leave session = session := by
  simp [leave, Logger.logAll]

end Account

namespace Task

variable {ε ε' α β : Type} {env : Environment}

/-- What a step comes to can be told from the files that it meets. -/
def Told (task : Task ε α) : Prop :=
  ∃ account : FileTree → Account ε α, ∀ session : Session,
    task.runOn session = ((account session.files).result, (account session.files).leave session)

namespace Told

theorem ofExcept (result : Except ε α) : Told (Task.ofExcept result) := by
  refine ⟨fun files => ⟨result, files, [], []⟩, ?_⟩
  intro session
  rw [Account.leave_quiet]
  rfl

theorem pure (value : α) : Told (Pure.pure value : Task ε α) :=
  ofExcept (.ok value)

theorem throw (error : ε) : Told (MonadExcept.throw error : Task ε α) :=
  ofExcept (.error error)

theorem look (question : FileTree → α) : Told (Task.look question : Task ε α) := by
  refine ⟨fun files => ⟨.ok (question files), files, [], []⟩, ?_⟩
  intro session
  rw [Account.leave_quiet]
  rfl

theorem note (calls : List Call) : Told (Task.note calls : Task ε Unit) :=
  ⟨fun files => ⟨.ok (), files, calls, []⟩, fun _ => rfl⟩

theorem putFiles (files : FileTree) : Told (Task.putFiles files : Task ε Unit) := by
  refine ⟨fun _ => ⟨.ok (), files, [], []⟩, ?_⟩
  intro session
  simp [Task.putFiles, runOn, Account.leave, Logger.logAll]

theorem onFiles (wrap : IoError → ε) (action : TreeAction α) :
    Told (Task.onFiles wrap action) := by
  refine ⟨fun files => ⟨(action.runOn files).1.mapError wrap, (action.runOn files).2, [], []⟩, ?_⟩
  intro session
  rw [runOn_onFiles]
  simp [Session.withFiles, Account.leave, Logger.logAll]

theorem mapError {wrap : ε' → ε} {task : Task ε' α} (told : Told task) :
    Told (Task.mapError wrap task) := by
  rcases told with ⟨account, tells⟩
  refine ⟨fun files => ⟨(account files).result.mapError wrap, (account files).files,
    (account files).calls, (account files).said⟩, ?_⟩
  intro session
  rw [runOn_mapError, tells]
  rfl

/-- The account of two steps is made of their accounts. -/
theorem bind {task : Task ε α} {next : α → Task ε β} (earlier : Told task)
    (later : ∀ value, Told (next value)) : Told (task >>= next) := by
  rcases earlier with ⟨account, tells⟩
  choose accounts tellsNext using later
  -- The second account starts from the files that the first one leaves.
  refine ⟨fun files => (account files).andThen accounts, ?_⟩
  intro session
  rw [runOn_bind, tells]
  rcases outcome : (account session.files).result with error | value
  · simp [Account.andThen, outcome, Account.leave]
  · simp [Account.andThen, outcome, Account.leave, tellsNext, Logger.logAll_append]

/-- In sessions with the same files a step comes to the same. -/
theorem alike {task : Task ε α} (told : Told task) (files : FileTree) :
    ∃ account : Account ε α, ∀ session : Session, session.files = files →
      task.runOn session = (account.result, account.leave session) := by
  rcases told with ⟨account, tells⟩
  refine ⟨account files, ?_⟩
  rintro session rfl
  exact tells session

section Unlogged

variable (unlogged : env.logFile = none)

include unlogged

theorem sayAll (entries : List Entry) : Told (Task.sayAll env entries : Task ε Unit) := by
  refine ⟨fun files => ⟨.ok (), files, [], entries⟩, ?_⟩
  intro session
  rw [runOn_sayAll, session.recordAll_of_unlogged unlogged]
  simp [Account.leave]

theorem say (level : Level) (message : String) :
    Told (Task.say env level message : Task ε Unit) :=
  sayAll unlogged [⟨level, message⟩]

theorem ofReply (wrap : BridgeError → ε) (ask : FileTree → Reply α) :
    Told (Task.ofReply env wrap ask) := by
  refine .bind (.look _) fun reply => .bind (.putFiles _) fun _ => ?_
  exact .bind (.note _) fun _ => .bind (sayAll unlogged _) fun _ => .ofExcept _

theorem writeConfig (wrap : BridgeError → ε) (writer : ConfigWriter) (request : WriteRequest) :
    Told (Task.writeConfig env wrap writer request) :=
  .bind (sayAll unlogged _) fun _ => ofReply unlogged _ _

end Unlogged

end Told

end Task

end BridgeSetup
