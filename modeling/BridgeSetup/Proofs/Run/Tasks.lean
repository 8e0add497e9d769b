import BridgeSetup.Proofs.FileTree.Actions
import BridgeSetup.Run.Session

/-!
# Steps of a run

How steps run one after the other, and how properties of single steps become properties of
all that is made of them: when each step leaves a session that stands in a relation to the
one before, and the relation is reflexive and transitive, then so does the whole (`Keeps`).

The relation that matters most is `Along`: the files that a step leaves differ from those
before only on the way of given paths, and where the log is written.
-/

namespace BridgeSetup

/-- A session with another file tree. -/
def Session.withFiles (session : Session) (files : FileTree) : Session :=
  { session with files := files }

@[simp]
theorem Session.start_files (files : FileTree) (minimum : Level) :
    (Session.start files minimum).files = files := rfl

@[simp]
theorem Session.withFiles_files (session : Session) (files : FileTree) :
    (session.withFiles files).files = files := rfl

section Results

variable {ε ε' α : Type} {wrap : ε' → ε} {result : Except ε' α}

@[simp]
theorem mapError_eq_ok {value : α} :
    result.mapError wrap = .ok value ↔ result = .ok value := by
  cases result <;> simp [Except.mapError]

@[simp]
theorem mapError_eq_error {error : ε} :
    result.mapError wrap = .error error ↔
      ∃ failure, result = .error failure ∧ wrap failure = error := by
  cases result <;> simp [Except.mapError]

end Results

namespace Task

variable {ε α β : Type}

@[simp]
theorem runOn_pure (value : α) (session : Session) :
    (pure value : Task ε α).runOn session = (.ok value, session) := rfl

@[simp]
theorem runOn_throw (error : ε) (session : Session) :
    (throw error : Task ε α).runOn session = (.error error, session) := rfl

@[simp]
theorem runOn_look (question : FileTree → α) (session : Session) :
    (look question : Task ε α).runOn session = (.ok (question session.files), session) := rfl

@[simp]
theorem runOn_ofExcept (result : Except ε α) (session : Session) :
    (ofExcept result).runOn session = (result, session) := rfl

@[simp]
theorem runOn_say (env : Environment) (level : Level) (message : String) (session : Session) :
    (say env level message : Task ε Unit).runOn session =
      (.ok (), session.record env ⟨level, message⟩) := rfl

@[simp]
theorem runOn_sayAll (env : Environment) (entries : List Entry) (session : Session) :
    (sayAll env entries : Task ε Unit).runOn session = (.ok (), session.recordAll env entries) :=
  rfl

@[simp]
theorem runOn_note (calls : List Call) (session : Session) :
    (note calls : Task ε Unit).runOn session =
      (.ok (), { session with calls := session.calls ++ calls }) := rfl

theorem runOn_onFiles (wrap : IoError → ε) (action : TreeAction α) (session : Session) :
    (onFiles wrap action).runOn session =
      ((action.runOn session.files).1.mapError wrap,
        session.withFiles (action.runOn session.files).2) := by
  unfold runOn onFiles
  rcases action.runOn session.files with ⟨_ | _, files⟩ <;> rfl

theorem runOn_onFiles_of_ok {wrap : IoError → ε} {action : TreeAction α} {session : Session}
    {value : α} {files : FileTree} (run : action.runOn session.files = (.ok value, files)) :
    (onFiles wrap action).runOn session = (.ok value, session.withFiles files) := by
  rw [runOn_onFiles, run]
  rfl

theorem runOn_onFiles_eq_ok {wrap : IoError → ε} {action : TreeAction α}
    {session left : Session} {value : α}
    (run : (onFiles wrap action).runOn session = (.ok value, left)) :
    ∃ files, action.runOn session.files = (.ok value, files) ∧ left = session.withFiles files := by
  rw [runOn_onFiles, Prod.mk.injEq, mapError_eq_ok] at run
  rcases run with ⟨succeeded, rfl⟩
  exact ⟨(action.runOn session.files).2, Prod.ext succeeded rfl, rfl⟩

theorem runOn_mapError {ε' : Type} (wrap : ε' → ε) (task : Task ε' α) (session : Session) :
    (mapError wrap task).runOn session =
      ((task.runOn session).1.mapError wrap, (task.runOn session).2) := by
  simp only [runOn, mapError]
  rcases task session with ⟨_ | _, left⟩ <;> rfl

theorem runOn_bind (task : Task ε α) (next : α → Task ε β) (session : Session) :
    (task >>= next).runOn session =
      match task.runOn session with
      | (.ok value, left) => (next value).runOn left
      | (.error error, left) => (.error error, left) := by
  simp only [runOn, bind, ExceptT.bind, ExceptT.mk, StateT.bind]
  rcases task session with ⟨_ | _, left⟩ <;> rfl

theorem runOn_bind_of_ok {task : Task ε α} {next : α → Task ε β} {session left : Session}
    {value : α} (run : task.runOn session = (.ok value, left)) :
    (task >>= next).runOn session = (next value).runOn left := by
  rw [runOn_bind, run]

theorem runOn_bind_eq_ok {task : Task ε α} {next : α → Task ε β} {session last : Session}
    {result : β} (run : (task >>= next).runOn session = (.ok result, last)) :
    ∃ value left, task.runOn session = (.ok value, left) ∧
      (next value).runOn left = (.ok result, last) := by
  rw [runOn_bind] at run
  split at run
  · next value left first => exact ⟨value, left, first, run⟩
  · cases run

theorem runOn_bind_eq_error {task : Task ε α} {next : α → Task ε β} {session last : Session}
    {error : ε} (run : (task >>= next).runOn session = (.error error, last)) :
    task.runOn session = (.error error, last) ∨
      ∃ value left, task.runOn session = (.ok value, left) ∧
        (next value).runOn left = (.error error, last) := by
  rw [runOn_bind] at run
  split at run
  · next value left first => exact Or.inr ⟨value, left, first, run⟩
  · next failure left first =>
      cases run
      exact Or.inl first

/-! ## What every step keeps -/

/-- A relation between an earlier and a later session of a run. -/
structure Chains (relation : Session → Session → Prop) : Prop where
  refl : ∀ session, relation session session
  trans : ∀ {before middle after},
    relation before middle → relation middle after → relation before after

/-- Whatever comes of a step, the session that it leaves is related to the one before. -/
def Keeps (relation : Session → Session → Prop) (task : Task ε α) : Prop :=
  ∀ session, relation session (task.runOn session).2

namespace Keeps

variable {relation : Session → Session → Prop}

theorem pure (chains : Chains relation) (value : α) :
    Keeps relation (Pure.pure value : Task ε α) :=
  fun session => chains.refl session

theorem throw (chains : Chains relation) (error : ε) :
    Keeps relation (MonadExcept.throw error : Task ε α) :=
  fun session => chains.refl session

theorem look (chains : Chains relation) (question : FileTree → α) :
    Keeps relation (Task.look question : Task ε α) :=
  fun session => chains.refl session

theorem ofExcept (chains : Chains relation) (result : Except ε α) :
    Keeps relation (Task.ofExcept result) :=
  fun session => chains.refl session

theorem mapError {ε' : Type} {wrap : ε' → ε} {task : Task ε' α} (kept : Keeps relation task) :
    Keeps relation (Task.mapError wrap task) := by
  intro session
  rw [runOn_mapError]
  exact kept session

/-- The second of two steps need only keep the relation with values that the first yields. -/
theorem bind_of_ok (chains : Chains relation) {task : Task ε α} {next : α → Task ε β}
    (first : Keeps relation task)
    (second : ∀ session value left, task.runOn session = (.ok value, left) →
      Keeps relation (next value)) : Keeps relation (task >>= next) := by
  intro session
  have kept := first session
  rw [runOn_bind]
  split
  · next value left run =>
      rw [run] at kept
      exact chains.trans kept (second session value left run left)
  · next error left run =>
      rw [run] at kept
      exact kept

theorem bind (chains : Chains relation) {task : Task ε α} {next : α → Task ε β}
    (first : Keeps relation task) (second : ∀ value, Keeps relation (next value)) :
    Keeps relation (task >>= next) :=
  bind_of_ok chains first fun _ value _ _ => second value

end Keeps

end Task

/-! ## The log -/

/-- The log is written to the file at a location. -/
def Environment.LogsAt (env : Environment) (location : Location) : Prop :=
  ∃ logFile, env.logFile = some logFile ∧ logFile.file = location

namespace Session

variable (env : Environment) (session : Session)

@[simp]
theorem record_calls (entry : Entry) : (session.record env entry).calls = session.calls := by
  unfold record
  split <;> rfl

@[simp]
theorem recordAll_calls (entries : List Entry) :
    (session.recordAll env entries).calls = session.calls := by
  unfold recordAll
  induction entries generalizing session with
  | nil => rfl
  | cons entry rest ih => rw [List.foldl_cons, ih, record_calls]

theorem recordAll_append (first second : List Entry) :
    session.recordAll env (first ++ second) =
      (session.recordAll env first).recordAll env second :=
  List.foldl_append

theorem record_alike (entry : Entry) :
    FileTree.Alike env.LogsAt session.files (session.record env entry).files := by
  unfold record
  split
  · rcases log : env.logFile with _ | logFile
    · exact .refl session.files
    · exact .writeAt ⟨logFile, log, rfl⟩ _ _
  · exact .refl session.files

theorem recordAll_alike (entries : List Entry) :
    FileTree.Alike env.LogsAt session.files (session.recordAll env entries).files := by
  unfold recordAll
  induction entries generalizing session with
  | nil => exact .refl session.files
  | cons entry rest ih =>
      rw [List.foldl_cons]
      exact (record_alike env session entry).trans (ih (session.record env entry))

end Session

/-! ## Replies of an installer -/

/-- The session after an installer has replied. -/
def Session.afterReply {α : Type} (env : Environment) (session : Session) (reply : Reply α) :
    Session :=
  (⟨reply.files, session.log, session.calls ++ reply.started.map .start⟩ : Session).recordAll env
    reply.said

theorem Session.afterReply_alike {α : Type} (env : Environment) (session : Session)
    (reply : Reply α) : reply.files.Alike env.LogsAt (session.afterReply env reply).files :=
  Session.recordAll_alike env ⟨reply.files, session.log, _⟩ reply.said

theorem Task.runOn_ofReply {ε α : Type} (env : Environment) (wrap : BridgeError → ε)
    (ask : FileTree → Reply α) (session : Session) :
    (Task.ofReply env wrap ask).runOn session =
      ((ask session.files).result.mapError wrap,
        session.afterReply env (ask session.files)) := rfl

theorem Task.runOn_ofReply_eq_ok {ε α : Type} {env : Environment} {wrap : BridgeError → ε}
    {ask : FileTree → Reply α} {session left : Session} {value : α}
    (run : (Task.ofReply env wrap ask).runOn session = (.ok value, left)) :
    (ask session.files).result = .ok value ∧
      left = session.afterReply env (ask session.files) := by
  rw [runOn_ofReply, Prod.mk.injEq, mapError_eq_ok] at run
  rcases run with ⟨succeeded, rfl⟩
  exact ⟨succeeded, rfl⟩

theorem Task.runOn_ofReply_eq_error {ε α : Type} {env : Environment} {wrap : BridgeError → ε}
    {ask : FileTree → Reply α} {session left : Session} {error : ε}
    (run : (Task.ofReply env wrap ask).runOn session = (.error error, left)) :
    (∃ failure, (ask session.files).result = .error failure) ∧
      left = session.afterReply env (ask session.files) := by
  rw [runOn_ofReply, Prod.mk.injEq, mapError_eq_error] at run
  rcases run with ⟨⟨failure, failed, _⟩, rfl⟩
  exact ⟨⟨failure, failed⟩, rfl⟩

/-! ## Changes along paths -/

/-- A location lies on the way of one of the paths. -/
def FileTree.OnWays (tree : FileTree) (here : Location) (paths : Path → Prop)
    (location : Location) : Prop :=
  ∃ path, paths path ∧ tree.OnWay here path location

/-- A tree has grown on the given ways only, and on these and at locations apart it may hold
other contents and permission bits. -/
structure FileTree.Spreads (ways apart : Location → Prop) (before after : FileTree) : Prop where
  grows : Grows before after
  shape : ∀ location, ¬ ways location → after.shapeAt location = before.shapeAt location
  same : ∀ location, ¬ ways location → ¬ apart location →
    after.get? location = before.get? location

namespace FileTree.Spreads

variable {ways apart : Location → Prop} {before middle after : FileTree}

theorem refl (tree : FileTree) : Spreads ways apart tree tree :=
  ⟨.refl tree, fun _ _ => rfl, fun _ _ _ => rfl⟩

theorem trans (earlier : Spreads ways apart before middle)
    (later : Spreads ways apart middle after) : Spreads ways apart before after where
  grows := earlier.grows.trans later.grows
  shape location outside :=
    (later.shape location outside).trans (earlier.shape location outside)
  same location outside elsewhere :=
    (later.same location outside elsewhere).trans (earlier.same location outside elsewhere)

theorem of_alike (alike : Alike apart before after) : Spreads ways apart before after :=
  ⟨alike.grows, fun location _ => alike.shape location, fun location _ => alike.same location⟩

theorem of_touches (touches : Touches ways before after) : Spreads ways apart before after := by
  refine ⟨touches.grows, ?_, fun location outside _ => touches.same location outside⟩
  intro location outside
  simp only [shapeAt, touches.same location outside]

end FileTree.Spreads

/-- A run has called nothing, and from a tree that has grown out of `start` it has changed
nothing but places on the ways of the given paths, and what the log holds. -/
structure Along (env : Environment) (start : FileTree) (paths : Path → Prop)
    (before after : Session) : Prop where
  calls : after.calls = before.calls
  spreads : start.Grows before.files →
    FileTree.Spreads (start.OnWays env.workingDirectory paths) env.LogsAt before.files
      after.files

namespace Along

variable {ε α : Type} {env : Environment} {start : FileTree} {paths : Path → Prop}

theorem chains : Task.Chains (Along env start paths) where
  refl session := ⟨rfl, fun _ => .refl session.files⟩
  trans first second := by
    refine ⟨second.calls.trans first.calls, ?_⟩
    intro grows
    have earlier := first.spreads grows
    exact earlier.trans (second.spreads (grows.trans earlier.grows))

theorem grows {before after : Session} (along : Along env before.files paths before after) :
    before.files.Grows after.files :=
  (along.spreads (.refl before.files)).grows

theorem say (level : Level) (message : String) :
    Task.Keeps (Along env start paths) (Task.say env level message : Task ε Unit) :=
  fun session => ⟨session.record_calls env _, fun _ => .of_alike (session.record_alike env _)⟩

theorem sayAll (entries : List Entry) :
    Task.Keeps (Along env start paths) (Task.sayAll env entries : Task ε Unit) :=
  fun session =>
    ⟨session.recordAll_calls env entries, fun _ => .of_alike (session.recordAll_alike env entries)⟩

theorem onFiles (wrap : IoError → ε) {action : TreeAction α} {path : Path} (named : paths path)
    (touches : ∀ tree : FileTree, FileTree.Touches (tree.OnWay env.workingDirectory path) tree
      (action.runOn tree).2) :
    Task.Keeps (Along env start paths) (Task.onFiles wrap action) := by
  intro session
  rw [Task.runOn_onFiles]
  refine ⟨rfl, ?_⟩
  intro grows
  refine .of_touches (((touches session.files).onWay_grow grows).mono ?_)
  intro location onWay
  exact ⟨path, named, onWay⟩

end Along

end BridgeSetup
