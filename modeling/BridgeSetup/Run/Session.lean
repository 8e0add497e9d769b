import BridgeSetup.FileTree.Change
import BridgeSetup.Installer.Basic
import BridgeSetup.Log.Console

/-!
# Sessions

A session is what a run has brought about so far: the file tree, the log, and the calls
to the outside. A `Task` is a step of a run; it may stop with a failure and leaves a
session either way.
-/

namespace BridgeSetup

/-- A call that a run makes to the installer or to another program. -/
inductive Call where
  /-- The installer module was to be loaded. -/
  | load (module : Path)
  /-- The loaded installer was asked to write the configuration. -/
  | write (request : WriteRequest)
  /-- A program was started. -/
  | start (invocation : Invocation)
  deriving DecidableEq, Repr

/-- What a run has brought about so far. -/
structure Session where
  files : FileTree
  log : Logger
  /-- The calls made, oldest first. -/
  calls : List Call

namespace Session

/-- The beginning of a run. -/
def start (files : FileTree) (minimum : Level) : Session :=
  ⟨files, .empty minimum, []⟩

/-- The number of bytes that entries take in a log file. -/
def writtenLength (time : String) (entries : List Entry) : Nat :=
  (entries.flatMap fun entry => Bytes.ofString (entry.inFile time)).length

/-- The session after a message has been offered to the log. -/
def record (env : Environment) (session : Session) (entry : Entry) : Session :=
  if session.log.enabled entry.level then
    let files :=
      match env.logFile with
      | none => session.files
      | some logFile =>
        session.files.writeAt logFile.file (writtenLength logFile.time session.log.entries)
          (Bytes.ofString (entry.inFile logFile.time))
    { session with files := files, log := session.log.log entry }
  else session

/-- The session after several messages have been offered to the log. -/
def recordAll (env : Environment) (session : Session) (entries : List Entry) : Session :=
  entries.foldl (record env) session

end Session

/-- A step of a run: it may fail, and leaves a session also when it does. -/
abbrev Task (ε α : Type) := ExceptT ε (StateM Session) α

namespace Task

variable {ε ε' α : Type}

/-- The result of a step and the session that it leaves. -/
def runOn (task : Task ε α) (session : Session) : Except ε α × Session :=
  task session

/-- A step that offers a message to the log. -/
def say (env : Environment) (level : Level) (message : String) : Task ε Unit :=
  fun session => (.ok (), session.record env ⟨level, message⟩)

/-- A step that offers several messages to the log. -/
def sayAll (env : Environment) (entries : List Entry) : Task ε Unit :=
  fun session => (.ok (), session.recordAll env entries)

/-- A step that looks at the file tree. -/
def look (question : FileTree → α) : Task ε α :=
  fun session => (.ok (question session.files), session)

/-- A step that notes calls. -/
def note (calls : List Call) : Task ε Unit :=
  fun session => (.ok (), { session with calls := session.calls ++ calls })

/-- A step that leaves another file tree. -/
def putFiles (files : FileTree) : Task ε Unit :=
  fun session => (.ok (), { session with files := files })

/-- A step that goes on with a value or stops with a failure. -/
def ofExcept (result : Except ε α) : Task ε α :=
  fun session => (result, session)

/-- An action on the file tree as a step, with its failures in another form. -/
def onFiles (wrap : IoError → ε) (action : TreeAction α) : Task ε α := fun session =>
  match action.runOn session.files with
  | (.ok value, files) => (.ok value, { session with files := files })
  | (.error error, files) => (.error (wrap error), { session with files := files })

/-- A step with its failures in another form. -/
def mapError (wrap : ε → ε') (task : Task ε α) : Task ε' α := fun session =>
  match task.runOn session with
  | (.ok value, left) => (.ok value, left)
  | (.error error, left) => (.error (wrap error), left)

/-- A step that takes over the answer of an installer. -/
def ofReply (env : Environment) (wrap : BridgeError → ε) (ask : FileTree → Reply α) :
    Task ε α := do
  let reply ← look ask
  putFiles reply.files
  note (reply.started.map .start)
  sayAll env reply.said
  ofExcept (reply.result.mapError wrap)

/-- A step that has a loaded installer write the configuration. -/
def writeConfig (env : Environment) (wrap : BridgeError → ε) (writer : ConfigWriter)
    (request : WriteRequest) : Task ε Int := do
  sayAll env (writer.announcement request)
  ofReply env wrap (writer.write request)

end Task

end BridgeSetup
