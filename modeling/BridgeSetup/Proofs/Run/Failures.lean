import BridgeSetup.Proofs.Run.Tasks

/-!
# How a step can fail, and what it reports

A step has only certain failures when each of the steps that it is made of has only these
(`Task.FailsOnly`). Errors are logged when a run has ended, and not by the steps themselves
(`Session.KeepsErrors`).

Most steps are `Modest`: they are made of steps that look at files and change them, log nothing
that is an error, and have only allowed failures of their own. What a modest step is made of is
told once, and both properties follow.
-/

namespace BridgeSetup

/-- None of the entries is an error. -/
def Mild (entries : List Entry) : Prop :=
  ∀ entry ∈ entries, entry.level ≠ .error

namespace Mild

theorem nil : Mild [] := by
  simp [Mild]

theorem single {level : Level} (mild : level ≠ .error) (message : String) :
    Mild [⟨level, message⟩] := by
  simpa [Mild] using mild

theorem append {front back : List Entry} (first : Mild front) (second : Mild back) :
    Mild (front ++ back) := by
  intro entry logged
  rcases List.mem_append.mp logged with early | late
  · exact first entry early
  · exact second entry late

end Mild

namespace Session

/-- The errors that have been logged. -/
def errors (session : Session) : List Entry :=
  session.log.entries.filter (·.level = .error)

/-- No errors have been logged in between. -/
def KeepsErrors (before after : Session) : Prop :=
  after.errors = before.errors

theorem KeepsErrors.chains : Task.Chains KeepsErrors where
  refl _ := rfl
  trans earlier later := Eq.trans later earlier

theorem errors_record (env : Environment) (session : Session) (entry : Entry) :
    (session.record env entry).errors =
      if entry.level = .error then session.errors ++ [entry] else session.errors := by
  have most : session.log.enabled .error = true := by
    unfold Logger.enabled
    cases session.log.minimum <;> rfl
  unfold record
  by_cases isError : entry.level = .error
  · simp [errors, Logger.log, isError, most]
  · by_cases enabled : session.log.enabled entry.level = true
    · simp [errors, Logger.log, isError, enabled]
    · simp [enabled, isError]

theorem errors_recordAll (env : Environment) (session : Session) (entries : List Entry) :
    (session.recordAll env entries).errors =
      session.errors ++ entries.filter (·.level = .error) := by
  unfold recordAll
  induction entries generalizing session with
  | nil => simp
  | cons entry rest ih =>
      rw [List.foldl_cons, ih, errors_record]
      by_cases isError : entry.level = .error
      · simp [isError]
      · simp [isError]

theorem keepsErrors_recordAll (env : Environment) (session : Session) {entries : List Entry}
    (mild : Mild entries) : KeepsErrors session (session.recordAll env entries) := by
  have none : entries.filter (·.level = .error) = [] := by
    simpa [Mild, List.filter_eq_nil_iff] using mild
  rw [KeepsErrors, errors_recordAll, none, List.append_nil]

end Session

namespace Task

variable {ε ε' α β : Type} {allowed : ε → Prop}

/-! ## Failures -/

/-- Whatever session a step is taken in, it has no failures but the allowed ones. -/
def FailsOnly (allowed : ε → Prop) (task : Task ε α) : Prop :=
  ∀ session error left, task.runOn session = (.error error, left) → allowed error

namespace FailsOnly

theorem pure (value : α) : FailsOnly allowed (Pure.pure value : Task ε α) :=
  fun _ _ _ run => nomatch run

theorem look (question : FileTree → α) : FailsOnly allowed (Task.look question : Task ε α) :=
  fun _ _ _ run => nomatch run

theorem sayAll (env : Environment) (entries : List Entry) :
    FailsOnly allowed (Task.sayAll env entries : Task ε Unit) :=
  fun _ _ _ run => nomatch run

theorem note (calls : List Call) : FailsOnly allowed (Task.note calls : Task ε Unit) :=
  fun _ _ _ run => nomatch run

/-- A result with its failures in another form has only failures of that form. -/
theorem mapped {wrap : ε' → ε} (permitted : ∀ error, allowed (wrap error))
    {result : Except ε' α} {error : ε} (failed : result.mapError wrap = .error error) :
    allowed error := by
  rcases mapError_eq_error.mp failed with ⟨failure, _, rfl⟩
  exact permitted failure

theorem ofReply {wrap : BridgeError → ε} (permitted : ∀ error, allowed (wrap error))
    (env : Environment) (ask : FileTree → Reply α) :
    FailsOnly allowed (Task.ofReply env wrap ask) := by
  intro session error left run
  rw [runOn_ofReply] at run
  exact mapped permitted (Prod.mk.inj run).1

theorem onFiles {wrap : IoError → ε} (permitted : ∀ error, allowed (wrap error))
    (action : TreeAction α) : FailsOnly allowed (Task.onFiles wrap action) := by
  intro session error left run
  rw [runOn_onFiles] at run
  exact mapped permitted (Prod.mk.inj run).1

theorem mapError {wrap : ε' → ε} (permitted : ∀ error, allowed (wrap error))
    (task : Task ε' α) : FailsOnly allowed (Task.mapError wrap task) := by
  intro session error left run
  rw [runOn_mapError] at run
  exact mapped permitted (Prod.mk.inj run).1

theorem bind {task : Task ε α} {next : α → Task ε β} (earlier : FailsOnly allowed task)
    (later : ∀ value, FailsOnly allowed (next value)) : FailsOnly allowed (task >>= next) := by
  intro session error left run
  rcases runOn_bind_eq_error run with failed | ⟨value, middle, _, failed⟩
  · exact earlier session error left failed
  · exact later value middle error left failed

end FailsOnly

/-! ## Modest steps -/

/-- A step is made of steps that look at files or change them, note calls, log nothing that is
an error, and have only allowed failures. -/
inductive Modest : {ε α : Type} → (allowed : ε → Prop) → Task ε α → Prop where
  | pure {ε α : Type} {allowed : ε → Prop} (value : α) : Modest allowed (Pure.pure value)
  | look {ε α : Type} {allowed : ε → Prop} (question : FileTree → α) :
      Modest allowed (Task.look question)
  | sayAll {ε : Type} {allowed : ε → Prop} (env : Environment) {entries : List Entry}
      (mild : Mild entries) : Modest allowed (Task.sayAll env entries)
  | note {ε : Type} {allowed : ε → Prop} (calls : List Call) : Modest allowed (Task.note calls)
  | putFiles {ε : Type} {allowed : ε → Prop} (files : FileTree) :
      Modest allowed (Task.putFiles files)
  | ofExcept {ε α : Type} {allowed : ε → Prop} {result : Except ε α}
      (permitted : ∀ error, result = .error error → allowed error) :
      Modest allowed (Task.ofExcept result)
  | onFiles {ε α : Type} {allowed : ε → Prop} {wrap : IoError → ε}
      (permitted : ∀ error, allowed (wrap error)) (action : TreeAction α) :
      Modest allowed (Task.onFiles wrap action)
  | mapError {ε ε' α : Type} {allowed : ε → Prop} {inner : ε' → Prop} {wrap : ε' → ε}
      (permitted : ∀ error, allowed (wrap error)) {task : Task ε' α}
      (modest : Modest inner task) : Modest allowed (Task.mapError wrap task)
  | bind {ε α β : Type} {allowed : ε → Prop} {task : Task ε α} {next : α → Task ε β}
      (earlier : Modest allowed task) (later : ∀ value, Modest allowed (next value)) :
      Modest allowed (task >>= next)

namespace Modest

theorem say (env : Environment) {level : Level} (mild : level ≠ .error) (message : String) :
    Modest allowed (Task.say env level message : Task ε Unit) :=
  .sayAll env (.single mild message)

theorem throw {error : ε} (permitted : allowed error) :
    Modest allowed (MonadExcept.throw error : Task ε α) := by
  have only : ∀ other, (.error error : Except ε α) = .error other → allowed other := by
    rintro other ⟨⟩
    exact permitted
  exact .ofExcept only

theorem ofMapError {wrap : ε' → ε} (permitted : ∀ error, allowed (wrap error))
    (result : Except ε' α) : Modest allowed (Task.ofExcept (result.mapError wrap)) :=
  .ofExcept fun _ => FailsOnly.mapped permitted

theorem mono {permitted : ε → Prop} (weaker : ∀ error, allowed error → permitted error)
    {task : Task ε α} (modest : Modest allowed task) : Modest permitted task := by
  induction modest with
  | pure value => exact .pure value
  | look question => exact .look question
  | sayAll env mild => exact .sayAll env mild
  | note calls => exact .note calls
  | putFiles files => exact .putFiles files
  | ofExcept only => exact .ofExcept fun error failed => weaker error (only error failed)
  | onFiles only action => exact .onFiles (fun error => weaker _ (only error)) action
  | mapError only modest _ => exact .mapError (fun error => weaker _ (only error)) modest
  | bind _ _ earlier later =>
      exact .bind (earlier weaker) fun value => later value weaker

theorem failsOnly {task : Task ε α} (modest : Modest allowed task) : FailsOnly allowed task := by
  induction modest with
  | pure value => exact .pure value
  | look question => exact .look question
  | sayAll env mild => exact .sayAll env _
  | note calls => exact .note calls
  | putFiles files => exact fun _ _ _ run => nomatch run
  | ofExcept permitted =>
      intro session error left run
      exact permitted error (Prod.mk.inj run).1
  | onFiles permitted action => exact .onFiles permitted action
  | mapError permitted _ _ => exact .mapError permitted _
  | bind _ _ earlier later => exact .bind earlier later

theorem keepsErrors {task : Task ε α} (modest : Modest allowed task) :
    Keeps Session.KeepsErrors task := by
  induction modest with
  | pure value => exact .pure Session.KeepsErrors.chains value
  | look question => exact .look Session.KeepsErrors.chains question
  | sayAll env mild => exact fun session => session.keepsErrors_recordAll env mild
  | note calls => exact fun _ => rfl
  | putFiles files => exact fun _ => rfl
  | ofExcept permitted => exact .ofExcept Session.KeepsErrors.chains _
  | onFiles permitted action =>
      intro session
      rw [runOn_onFiles]
      rfl
  | mapError _ _ kept => exact .mapError kept
  | bind _ _ earlier later => exact .bind Session.KeepsErrors.chains earlier later

end Modest

end Task

end BridgeSetup
