import BridgeSetup.Proofs.FileTree.Folding
import BridgeSetup.Proofs.Installer.StatusLine
import BridgeSetup.Proofs.Interpreter.Choice
import BridgeSetup.Proofs.Interpreter.ProbeOutput

/-!
# Which interpreter is run

Choosing an interpreter and starting it are two lookups. A path that is asked for is chosen if it
names a regular file as seen from the working directory. To start it, the same is done only if
there is a separator in the path; a bare name is looked up along the search path instead. What a
search has found always has a separator in it (`search_found`), so the two lookups part ways for
one kind of choice alone, a bare name of a regular file in the working directory.

`Runs` follows a choice through the probe and on to the installer, for either lookup: `StartsFile`
says that a given file is started, and `StartsAlong` what a bare name comes to.
-/

namespace BridgeSetup

namespace Path

/-- There is no separator in a path. -/
def IsBare (path : Path) : Prop :=
  '/' ∉ path.text.toList

variable {path base inner : Path}

theorem text_ne_empty_of_not_isBare (slashed : ¬ path.IsBare) : path.text ≠ "" := by
  rintro empty
  simp [IsBare, empty] at slashed

theorem not_isBare_of_isAbsolute (absolute : path.isAbsolute = true) : ¬ path.IsBare := by
  simp only [isAbsolute, decide_eq_true_eq] at absolute
  exact fun bare => bare (List.mem_of_mem_head? absolute)

theorem not_isBare_join (named : base.text ≠ "") : ¬ (base.join inner).IsBare := by
  unfold join
  split
  · next absolute => exact not_isBare_of_isAbsolute absolute
  · split
    · next empty => simp [named] at empty
    · next ends =>
        have slash := List.mem_of_getLast? ends
        simp [IsBare, slash]
    · simp [IsBare]

end Path

theorem not_isBare_extended {base : Path} (slashed : ¬ base.IsBare) (steps : List Component) :
    ¬ (extended base steps).IsBare := by
  unfold extended
  induction steps generalizing base with
  | nil => exact slashed
  | cons step rest ih =>
      exact ih (Path.not_isBare_join (Path.text_ne_empty_of_not_isBare slashed))

namespace Environment

variable {env : Environment} {tree : FileTree} {program path : Path}

/-! ## What a search finds -/

theorem not_isBare_absolutePath (env : Environment) (path : Path) :
    ¬ (env.absolutePath path).IsBare := by
  unfold absolutePath
  split
  · next absolute => exact Path.not_isBare_of_isAbsolute absolute
  · apply not_isBare_extended
    simp [Path.IsBare, workingPath, Path.ofNames]

theorem searchedDirectory_text_ne_empty (env : Environment) (entry : String) :
    (env.searchedDirectory entry).text ≠ "" := by
  unfold searchedDirectory
  dsimp only
  split
  · next tilde =>
      rintro empty
      rcases directory : env.expandTilde ⟨entry⟩ with ⟨text⟩
      rw [directory] at tilde empty
      subst empty
      revert tilde
      decide
  · exact Path.text_ne_empty_of_not_isBare (not_isBare_absolutePath env _)

/-- A search yields what can be executed, under a path that is no bare name. -/
theorem search_found (found : env.search tree program = .ok path) :
    ¬ path.IsBare ∧ tree.isExecutable env.workingDirectory path = true := by
  have slashed {paths : List Path} (listed : env.searchCandidates program = .ok paths) :
      ∀ path ∈ paths, ¬ path.IsBare := by
    unfold searchCandidates at listed
    split at listed
    · cases listed
      simpa using not_isBare_absolutePath env program
    · split at listed
      · cases listed
      · cases listed
        simp only [List.forall_mem_map]
        exact fun entry _ => Path.not_isBare_join (searchedDirectory_text_ne_empty env entry)
  unfold search at found
  rcases listed : env.searchCandidates program with failure | paths
  · simp [listed, bind, Except.bind] at found
  · simp only [listed, bind, Except.bind] at found
    split at found
    · next first =>
        cases found
        exact ⟨slashed listed _ (List.mem_of_find?_eq_some first), List.find?_some first⟩
    · cases found

/-! ## What is started -/

/-- The program at a place, started under a path. -/
def invocation (env : Environment) (place : Location) (path : Path) (arguments : List String) :
    Invocation :=
  ⟨place, path, arguments, env.workingDirectory, env.bindings⟩

/-- The file at a place is started, or it is not because it cannot be executed. -/
inductive StartsFile (env : Environment) (files : FileTree) (place : Location) (path : Path)
    (arguments : List String) : Attempt → Prop where
  | runs {finished left}
      (ends : env.programs (env.invocation place path arguments) files = (.ok finished, left)) :
      StartsFile env files place path arguments
        ⟨.ok finished, left, [env.invocation place path arguments]⟩
  | refused {fault left}
      (refusal : env.programs (env.invocation place path arguments) files = (.error fault, left)) :
      StartsFile env files place path arguments ⟨.error (.system fault), left, []⟩
  | forbidden {contents mode} (file : files.get? place = some (.file contents mode))
      (barred : FileTree.isExecutableMode mode = false) :
      StartsFile env files place path arguments ⟨.error (.system .permissionDenied), files, []⟩

/-- The directories in which a bare name is looked up to be started. -/
def startEntries (env : Environment) : List String :=
  searchEntries (Text.splitAt ':' (env.searchPath.getD defaultSearchPath))

/-- A bare name leads to the file at a place, found under a path in the first of the given
directories that has a file of the name that may be executed. -/
inductive LeadsAlong (env : Environment) (files : FileTree) (name : String) :
    List String → Path → Location → Prop where
  | here {entry rest place}
      (found : files.executableAt env.workingDirectory (candidate name entry) = .ok place) :
      LeadsAlong env files name (entry :: rest) (candidate name entry) place
  | later {entry rest path place fault}
      (missing : files.executableAt env.workingDirectory (candidate name entry) =
        .error (.system fault)) (passed : isPassedOver fault = true)
      (leads : LeadsAlong env files name rest path place) :
      LeadsAlong env files name (entry :: rest) path place

/-- What starting a bare name comes to. -/
structure StartsAlong (env : Environment) (files : FileTree) (name : String)
    (arguments : List String) (attempt : Attempt) : Prop where
  candidates : ∀ invocation ∈ attempt.started,
    ∃ entry ∈ env.startEntries, invocation.path = candidate name entry
  first : ∀ path place finished left, env.LeadsAlong files name env.startEntries path place →
    env.programs (env.invocation place path arguments) files = (.ok finished, left) →
    attempt = ⟨.ok finished, left, [env.invocation place path arguments]⟩
  nowhere : (∀ entry ∈ env.startEntries, ∀ place,
      files.executableAt env.workingDirectory (candidate name entry) ≠ .ok place) →
    attempt.started = []

/-- Arguments that a program can be given. -/
def Passable (arguments : List String) : Prop :=
  ∀ text ∈ arguments, '\x00' ∉ text.toList

section Start

variable {files : FileTree} {place : Location} {arguments : List String}

theorem startAt_of_executable (found : files.executableAt env.workingDirectory path = .ok place) :
    env.startAt files path arguments =
      match env.programs (env.invocation place path arguments) files with
      | (.ok finished, left) => ⟨.ok finished, left, [env.invocation place path arguments]⟩
      | (.error fault, left) => ⟨.error (.system fault), left, []⟩ := by
  unfold startAt
  rw [found]
  rfl

theorem startAt_startsFile (named : files.NamesFile env.workingDirectory path place) :
    env.StartsFile files place path arguments (env.startAt files path arguments) := by
  rcases named with ⟨located, mode, contents, file⟩
  rcases executable : FileTree.isExecutableMode mode with _ | _
  · have barred : files.executableAt env.workingDirectory path =
        .error (.system .permissionDenied) := by
      simp [FileTree.executableAt, bind, Except.bind, located, file, executable]
    unfold startAt
    rw [barred]
    exact .forbidden file executable
  · have found := FileTree.executableAt_eq_ok_iff.mpr
      ⟨located, mode, ⟨contents, file⟩, executable⟩
    rw [startAt_of_executable found]
    split
    · next ends => exact .runs ends
    · next refusal => exact .refused refusal

theorem path_of_mem_startAt {invocation : Invocation}
    (started : invocation ∈ (env.startAt files path arguments).started) :
    invocation.path = path := by
  unfold startAt at started
  split at started
  · cases started
  · dsimp only at started
    split at started
    · rw [List.mem_singleton.mp started]
    · cases started

theorem candidate_of_mem_startAlong {name : String} {fault : Fault} {entries : List String}
    {invocation : Invocation}
    (started : invocation ∈ (env.startAlong name arguments files fault entries).started) :
    ∃ entry ∈ entries, invocation.path = candidate name entry := by
  induction entries generalizing files fault with
  | nil => cases started
  | cons entry rest ih =>
      have here (started : invocation ∈
          (env.startAt files (candidate name entry) arguments).started) :
          ∃ other ∈ entry :: rest, invocation.path = candidate name other :=
        ⟨entry, List.mem_cons_self, path_of_mem_startAt started⟩
      unfold startAlong at started
      dsimp only at started
      split at started
      · split at started
        · rcases ih started with ⟨other, member, path⟩
          exact ⟨other, List.mem_cons_of_mem entry member, path⟩
        · exact here started
      · exact here started

theorem LeadsAlong.startAlong_eq {name : String} {entries : List String} {finished : Finished}
    {left : FileTree} (leads : env.LeadsAlong files name entries path place)
    (ends : env.programs (env.invocation place path arguments) files = (.ok finished, left))
    (fault : Fault) :
    env.startAlong name arguments files fault entries =
      ⟨.ok finished, left, [env.invocation place path arguments]⟩ := by
  induction leads generalizing fault with
  | here found =>
      unfold startAlong
      rw [startAt_of_executable found, ends]
  | later missing passed _ ih => simp [startAlong, startAt, missing, passed, ih ends]

theorem startAlong_of_nowhere {name : String} {fault : Fault} {entries : List String}
    (nowhere : ∀ entry ∈ entries, ∀ place,
      files.executableAt env.workingDirectory (candidate name entry) ≠ .ok place) :
    (env.startAlong name arguments files fault entries).started = [] := by
  induction entries generalizing fault with
  | nil => rfl
  | cons entry rest ih =>
      have onward := fun other member => nowhere other (List.mem_cons_of_mem entry member)
      rcases missing : files.executableAt env.workingDirectory (candidate name entry) with
        error | place
      · cases error with
        | system latest =>
            rcases passed : isPassedOver latest with _ | _
            · simp [startAlong, startAt, missing, passed]
            · simp [startAlong, startAt, missing, passed, ih onward]
        | _ => simp [startAlong, startAt, missing]
      · exact absurd missing (nowhere entry List.mem_cons_self place)

theorem start_of_bare (bare : path.IsBare) (named : path.text ≠ "") (whole : path.hasNul = false)
    (passable : Passable arguments) :
    env.start files path arguments =
      env.startAlong path.text arguments files .notFound env.startEntries := by
  have accepted : arguments.any (·.toList.contains '\x00') = false := by
    simpa [Passable] using passable
  have noSeparator : path.text.toList.contains '/' = false := by
    simpa [Path.IsBare] using bare
  rw [start, whole, accepted, noSeparator]
  simp [named, startEntries]

theorem start_startsAlong (bare : path.IsBare) (named : path.text ≠ "")
    (whole : path.hasNul = false) (passable : Passable arguments) :
    env.StartsAlong files path.text arguments (env.start files path arguments) := by
  rw [start_of_bare bare named whole passable]
  constructor
  · intro invocation started
    exact candidate_of_mem_startAlong started
  · intro found place finished left leads ends
    exact leads.startAlong_eq ends .notFound
  · exact startAlong_of_nowhere

theorem start_startsFile (slashed : ¬ path.IsBare) (whole : path.hasNul = false)
    (passable : Passable arguments) (named : files.NamesFile env.workingDirectory path place) :
    env.StartsFile files place path arguments (env.start files path arguments) := by
  have texts : ∀ text ∈ path.text :: arguments, '\x00' ∉ text.toList := by
    rw [List.forall_mem_cons]
    exact ⟨by simpa [Path.hasNul] using whole, passable⟩
  rw [Installer.start_of_slashed (by simpa [Path.IsBare] using slashed) texts]
  exact startAt_startsFile named

theorem start_unpassable (unpassable : ¬ Passable arguments) :
    env.start files path arguments = ⟨.error .nulInArgument, files, []⟩ := by
  have refused : arguments.any (·.toList.contains '\x00') = true := by
    simpa [Passable] using unpassable
  rw [start, refused]
  simp

end Start

end Environment

namespace Interpreter

open Environment (Passable)

variable {env : Environment} {session left : Session} {requested chosen : Path}

/-! ## The probe and the installer -/

/-- What is said before an interpreter is probed. -/
def probingEntry (executable : Path) : Entry :=
  ⟨.debug, "Probing Python at: " ++ executable.text⟩

/-- Probing an interpreter in a session has come to an attempt to start it. -/
structure Probes (env : Environment) (session : Session) (executable : Path) (attempt : Attempt) :
    Prop where
  calls : ((probe env executable).runOn session).2.calls =
    session.calls ++ attempt.started.map .start
  failure : ∀ error, attempt.result = .error error →
    ((probe env executable).runOn session).1 = .error (.notStarted executable error)
  executable : ∀ runtime, ((probe env executable).runOn session).1 = .ok runtime →
    runtime.executable = executable

/-- An installer's reply has come of an attempt to start a program. -/
structure Writes (command : String) (reply : Reply Int) (attempt : Attempt) : Prop where
  started : reply.started = attempt.started
  files : reply.files = attempt.files
  failure : ∀ error, attempt.result = .error error →
    reply.result = .error (.notStarted command error)

theorem runOn_start {ε : Type} (env : Environment) (session : Session) (wrap : IoError → ε)
    (program : Path) (arguments : List String) :
    (start env wrap program arguments).runOn session =
      ((env.start session.files program arguments).result.mapError wrap,
        ⟨(env.start session.files program arguments).files, session.log,
          session.calls ++ (env.start session.files program arguments).started.map .start⟩) := rfl

theorem probe_begins (env : Environment) (session : Session) (executable : Path) :
    (Task.say env .debug ("Probing Python at: " ++ executable.text) :
      Task DiscoveryError Unit).runOn session =
      (.ok (), session.record env (probingEntry executable)) := rfl

section Probe

variable {executable : Path} {begun : Session}

theorem probe_of_unstarted {error : IoError}
    (failed : (start env (DiscoveryError.notStarted executable) executable
      ["-c", probeScript]).runOn (session.record env (probingEntry executable)) =
      (.error (.notStarted executable error), begun)) :
    (probe env executable).runOn session = (.error (.notStarted executable error), begun) := by
  unfold probe
  rw [Task.runOn_bind_of_ok (probe_begins env session executable), Task.runOn_bind, failed]

/-- Nothing more is called once an interpreter has run, and that one is described. -/
theorem probe_of_started {finished : Finished}
    (started : (start env (DiscoveryError.notStarted executable) executable
      ["-c", probeScript]).runOn (session.record env (probingEntry executable)) =
      (.ok finished, begun)) :
    ((probe env executable).runOn session).2.calls = begun.calls ∧
      ∀ runtime, ((probe env executable).runOn session).1 = .ok runtime →
        runtime.executable = executable := by
  unfold probe
  rw [Task.runOn_bind_of_ok (probe_begins env session executable),
    Task.runOn_bind_of_ok started, Task.runOn_bind, Task.runOn_sayAll]
  dsimp only
  rcases succeeded : finished.exit.isSuccess with _ | _
  · simp
  · rcases read : Runtime.ofProbeOutput executable (Utf8.decodeLossy finished.stdout) with
      failure | runtime
    · simp [Task.runOn_bind]
    · have described := (Runtime.ofProbeOutput_eq_ok_iff.mp read).2.2
      simp [-bind_pure_comp, Task.runOn_bind, described]

end Probe

theorem probe_probes (env : Environment) (session : Session) (executable : Path) :
    Probes env session executable
      (env.start (session.record env (probingEntry executable)).files executable
        ["-c", probeScript]) := by
  have run := runOn_start env (session.record env (probingEntry executable))
    (DiscoveryError.notStarted executable) executable ["-c", probeScript]
  rcases ended : (env.start (session.record env (probingEntry executable)).files executable
    ["-c", probeScript]).result with error | finished
  · rw [ended] at run
    have failed := probe_of_unstarted run
    constructor
    · simp [failed]
    · intro other same
      simpa [failed, ended] using same
    · simp [failed]
  · rw [ended] at run
    rcases probe_of_started run with ⟨calls, executable⟩
    constructor
    · simpa using calls
    · intro error failed
      simp [ended] at failed
    · exact executable

theorem write_writes (env : Environment) (interpreter directory : Path) (name : String)
    (request : WriteRequest) (files : FileTree) :
    Writes (Installer.commandName name)
      ((Installer.writer env interpreter directory name).write request files)
      (env.start files interpreter (Installer.arguments directory name request)) := by
  unfold Installer.writer Installer.write
  dsimp only
  split
  · next error failed =>
      constructor
      · rfl
      · rfl
      · intro other same
        simpa [failed] using same
  · next finished succeeded =>
      constructor
      · rfl
      · rfl
      · intro error failed
        simp [failed] at succeeded

theorem writer_of_load {interpreter module : Path} {before : FileTree} {writer : ConfigWriter}
    (loaded : ((Installer.scripted env interpreter).load module before).result = .ok writer) :
    ∃ directory name, writer = Installer.writer env interpreter directory name := by
  unfold Installer.scripted at loaded
  dsimp only at loaded
  split at loaded
  · split at loaded
    · cases loaded
      exact ⟨_, _, rfl⟩
    · cases loaded
  · cases loaded

/-! ## From the choice to the installer -/

/-- What becomes of a chosen interpreter when it is probed and when it runs the installer. Files
and arguments stand in the given relation to what starting the interpreter comes to. -/
structure Runs (env : Environment) (session : Session) (chosen : Path)
    (comes : FileTree → List String → Attempt → Prop) : Prop where
  probed : ∃ files attempt, session.files.SamePermissions files ∧
    comes files ["-c", probeScript] attempt ∧ Probes env session chosen attempt
  handedOn : ∀ runtime module before writer,
    ((probe env chosen).runOn session).1 = .ok runtime →
    ((Installer.scripted env runtime.executable).load module before).result = .ok writer →
    ∃ directory name, writer = Installer.writer env chosen directory name
  written : ∀ directory name request files,
    Passable (Installer.arguments directory name request) →
    ∃ attempt, comes files (Installer.arguments directory name request) attempt ∧
      Writes (Installer.commandName name)
        ((Installer.writer env chosen directory name).write request files) attempt
  unpassable : ∀ directory name request files,
    ¬ Passable (Installer.arguments directory name request) →
    ((Installer.writer env chosen directory name).write request files).started = []

theorem passable_probe : Passable ["-c", probeScript] := by
  simp only [Passable, List.forall_mem_cons, List.not_mem_nil, false_implies, implies_true,
    and_true]
  exact ⟨by decide, by decide +kernel⟩

theorem runs_of_start {comes : FileTree → List String → Attempt → Prop}
    (starts : ∀ files arguments, Passable arguments →
      comes files arguments (env.start files chosen arguments)) :
    Runs env session chosen comes := by
  constructor
  · exact ⟨_, _, session.record_samePermissions env (probingEntry chosen),
      starts _ _ passable_probe, probe_probes env session chosen⟩
  · intro runtime module before writer probed loaded
    rw [(probe_probes env session chosen).executable runtime probed] at loaded
    exact writer_of_load loaded
  · intro directory name request files passable
    exact ⟨_, starts files _ passable, write_writes env chosen directory name request files⟩
  · intro directory name request files unpassable
    rw [(write_writes env chosen directory name request files).started,
      Environment.start_unpassable unpassable]

/-- What is known of an interpreter that has been chosen because it was asked for. -/
structure Selected (env : Environment) (session left : Session) (requested chosen : Path) :
    Prop where
  unchanged : left = session
  named : ∃ place, ∀ files, session.files.SamePermissions files →
    files.NamesFile env.workingDirectory chosen place
  bare_iff : chosen.IsBare ↔
    requested.IsBare ∧ session.files.isFile env.workingDirectory requested = true
  itself : chosen.IsBare → chosen = requested
  slashed : ¬ chosen.IsBare → Runs env session chosen fun files arguments attempt =>
    ∀ place, files.NamesFile env.workingDirectory chosen place →
      env.StartsFile files place chosen arguments attempt
  bare : chosen.IsBare → Runs env session chosen fun files arguments attempt =>
    env.StartsAlong files chosen.text arguments attempt

/-- The interpreter that is chosen because it was asked for is the one that is run, unless its
path is a bare name of a file in the working directory: such a name is looked up along the search
path to be run. -/
theorem find_selects (found : (find env (some requested)).runOn session = (.ok chosen, left)) :
    Selected env session left requested chosen := by
  rw [find_requested, Prod.mk.injEq] at found
  rcases found with ⟨taken, rfl⟩
  have origin : session.files.isFile env.workingDirectory requested = true ∧ chosen = requested ∨
      session.files.isFile env.workingDirectory requested = false ∧
        env.search session.files requested = .ok chosen := by
    split at taken
    · next file =>
        cases taken
        exact Or.inl ⟨file, rfl⟩
    · next other => exact Or.inr ⟨by simpa using other, mapError_eq_ok.mp taken⟩
  have file : session.files.isFile env.workingDirectory chosen = true := by
    rcases origin with ⟨file, rfl⟩ | ⟨_, searched⟩
    · exact file
    · exact FileTree.isFile_of_isExecutable (Environment.search_found searched).2
  rcases FileTree.isFile_iff.mp file with ⟨place, contents, mode, located, there⟩
  rcases FileTree.checkPath_eq_ok_iff.mp (FileTree.locate_eq_ok_iff.mp located).1 with
    ⟨whole, named, _⟩
  constructor
  · rfl
  · exact ⟨place, fun files same => same.namesFile ⟨located, mode, contents, there⟩⟩
  · rcases origin with ⟨isFile, rfl⟩ | ⟨noFile, searched⟩
    · simp [isFile]
    · simp [noFile, (Environment.search_found searched).1]
  · intro bare
    rcases origin with ⟨_, rfl⟩ | ⟨_, searched⟩
    · rfl
    · exact absurd bare (Environment.search_found searched).1
  · intro slashed
    apply runs_of_start
    intro files arguments passable place namesFile
    exact Environment.start_startsFile slashed whole passable namesFile
  · intro bare
    apply runs_of_start
    intro files arguments passable
    exact Environment.start_startsAlong bare named whole passable

/-- Two interpreters of one name, in the working directory and on the search path. -/
def twinFiles : FileTree :=
  ⟨[(["py"], .file [] 0o755), (["py", "bin"], .file [] 0o755), (["bin"], .directory)]⟩

def twinEnvironment : Environment where
  workingDirectory := []
  bindings := [("PATH", "/bin")]
  executable := ⟨"/bin/setup"⟩
  programs _ files := (.ok Installer.noisyEnd, files)

theorem find_selects_sample :
    (find twinEnvironment (some ⟨"./py"⟩)).runOn (.start twinFiles .error) =
      (.ok ⟨"./py"⟩, .start twinFiles .error) ∧
    Selected twinEnvironment (.start twinFiles .error) (.start twinFiles .error) ⟨"./py"⟩
      ⟨"./py"⟩ ∧
    ¬ (⟨"./py"⟩ : Path).IsBare := by
  have found : (find twinEnvironment (some ⟨"./py"⟩)).runOn (.start twinFiles .error) =
      (.ok ⟨"./py"⟩, .start twinFiles .error) := by
    have file : twinFiles.isFile [] ⟨"./py"⟩ = true := by decide +kernel
    rw [find_requested]
    simp [twinEnvironment, file]
  exact ⟨found, find_selects found, by simp [Path.IsBare]⟩

/-- The file in the working directory is chosen, and the other one is run. -/
theorem find_strays :
    (find twinEnvironment (some ⟨"py"⟩)).runOn (.start twinFiles .error) =
      (.ok ⟨"py"⟩, .start twinFiles .error) ∧
    twinFiles.executableAt [] ⟨"py"⟩ = .ok ["py"] ∧
    ((probe twinEnvironment ⟨"py"⟩).runOn (.start twinFiles .error)).2.calls =
      [.start (twinEnvironment.invocation ["py", "bin"] ⟨"/bin/py"⟩ ["-c", probeScript])] := by
  refine ⟨?_, by decide +kernel, ?_⟩
  · have file : twinFiles.isFile [] ⟨"py"⟩ = true := by decide +kernel
    rw [find_requested]
    simp [twinEnvironment, file]
  · have started : (twinEnvironment.start twinFiles ⟨"py"⟩ ["-c", probeScript]).started =
        [twinEnvironment.invocation ["py", "bin"] ⟨"/bin/py"⟩ ["-c", probeScript]] := by
      decide +kernel
    have unlogged : (Session.start twinFiles .error).record twinEnvironment
        (probingEntry ⟨"py"⟩) = .start twinFiles .error := rfl
    rw [(probe_probes twinEnvironment _ ⟨"py"⟩).calls, unlogged, Session.start_files, started]
    rfl

end Interpreter

end BridgeSetup
