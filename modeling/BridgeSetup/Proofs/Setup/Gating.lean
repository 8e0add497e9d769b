import BridgeSetup.Proofs.Run.Failures
import BridgeSetup.Proofs.Setup.Installing
import BridgeSetup.Proofs.Setup.Marker
import BridgeSetup.Proofs.Setup.Repetition
import BridgeSetup.Proofs.Setup.Rewriting

/-!
# When the installer is called, and how a run fails

The steps of a run are gates: the installer is loaded when the three steps before have
succeeded and there is something to configure, and it is asked for the configuration when it
could be loaded (`run_gated`). A missing archive is reported by the last of the three steps
alone, before it has done anything, because no other step fails in that way (`IsPlain`).
-/

namespace BridgeSetup

/-- A failure other than that the archive or the installer is missing. -/
def SetupError.IsPlain : SetupError → Prop
  | missingArchive _ => False
  | missingInstaller .. => False
  | _ => True

theorem SetupError.IsPlain.ne_missingInstaller {error : SetupError} (plain : error.IsPlain)
    (module archive : Path) : error ≠ .missingInstaller module archive := by
  rintro rfl
  exact plain

/-- The installer module was to be loaded. -/
def Call.isLoad : Call → Bool
  | load _ => true
  | _ => false

/-- The loaded installer was asked to write the configuration. -/
def Call.isWrite : Call → Bool
  | write _ => true
  | _ => false

/-! ## Steps that only fail plainly -/

section Plain

open SetupError (IsPlain)
open BridgeSetup.Task (Modest)

variable {env : Environment} {wrap : ZipError → SetupError}

theorem Setup.provideDefaultConfig_modest (options : SetupOptions) (paths : InstallPaths) :
    Modest IsPlain (Setup.provideDefaultConfig env options paths) := by
  have written : Modest IsPlain (DefaultConfig.write env SetupError.io paths.defaultConfig
      options.snapHome options.force) := by
    refine .bind (.look _) fun there => ?_
    split
    · exact .pure false
    · exact .bind (.onFiles (fun _ => trivial) _) fun _ => .pure true
  refine .bind written fun wrote => ?_
  split
  · exact .say env (by decide) _
  · exact .pure ()

namespace Unpack

theorem openArchive_modest (plain : ∀ error, IsPlain (wrap error)) (archive : Path) :
    Modest IsPlain (openArchive env wrap archive) := by
  unfold openArchive
  refine .bind (.look _) fun located => ?_
  refine .bind (.ofMapError (fun _ => trivial) _) fun location => ?_
  refine .bind (.look _) fun contents => ?_
  refine .bind (.ofMapError (fun error => plain (.unreadable error)) _) fun bytes => ?_
  exact .bind (.ofMapError plain _) fun entries => .pure _

theorem unpackEntry_modest (plain : ∀ error, IsPlain (wrap error)) (archive : Location)
    (destination : Path) (entry : Zip.Entry) :
    Modest IsPlain (unpackEntry env wrap archive destination entry) := by
  unfold unpackEntry
  refine .bind (.look _) fun opened => ?_
  refine .bind (.ofMapError plain _) fun start => ?_
  split
  · exact .bind (.say env (by decide) _) fun _ => .pure false
  split
  · exact .bind (.onFiles (fun _ => trivial) _) fun _ => .pure false
  refine .bind (.onFiles (fun _ => trivial) _) fun _ => ?_
  split
  · exact .bind (.onFiles (fun _ => trivial) _) fun _ => .pure true
  · exact .pure true

theorem unpackEntries_modest (plain : ∀ error, IsPlain (wrap error)) (archive : Location)
    (destination : Path) (entries : List Zip.Entry) :
    Modest IsPlain (unpackEntries env wrap archive destination entries) := by
  induction entries with
  | nil => exact .pure 0
  | cons entry rest ih =>
      exact .bind (unpackEntry_modest plain archive destination entry) fun _ =>
        .bind ih fun _ => .pure _

theorem unpackListed_modest (archive destination : Path) :
    Modest IsPlain (unpackListed env archive destination) := by
  have plain : ∀ error, IsPlain (.unpack archive error) := fun _ => trivial
  unfold unpackListed
  refine .bind (.say env (by decide) _) fun _ => ?_
  refine .bind (openArchive_modest plain archive) fun opened => ?_
  refine .bind (unpackEntries_modest plain _ _ _) fun count => ?_
  exact .bind (.say env (by decide) _) fun _ => .pure _

theorem extractMember_modest (archive : Path) (member : String) (directory : Path) :
    Modest IsPlain (extractMember env archive member directory) := by
  have plain : ∀ error, IsPlain (.extraction archive member error) := fun _ => trivial
  unfold extractMember
  refine .bind (openArchive_modest plain archive) fun opened => ?_
  split
  · exact .throw trivial
  refine .bind (.look _) fun opening => ?_
  refine .bind (.ofMapError (fun _ => trivial) _) fun start => ?_
  split
  · exact .throw trivial
  · exact .bind (.onFiles (fun _ => trivial) _) fun _ => .pure _

theorem locateArchive_modest (javaModule : Path) (distribution : Distribution)
    (directory : Path) :
    Modest IsPlain (locateArchive env javaModule distribution directory) := by
  unfold locateArchive
  refine .bind (.look _) fun isFile => ?_
  split
  · exact .bind (.say env (by decide) _) fun _ => extractMember_modest _ _ _
  · exact .look _

end Unpack

theorem Setup.findArchive_modest (options : SetupOptions) (paths : InstallPaths) :
    Modest IsPlain (Setup.findArchive env options paths) := by
  unfold Setup.findArchive
  refine .bind (.look _) fun needed => ?_
  split
  · exact Unpack.locateArchive_modest _ _ _
  · exact .look _

theorem Configure.resolveJavaHome_modest {ε : Type} {allowed : ε → Prop}
    (requested : Option Path) (installDir : Path) :
    Modest allowed (Configure.resolveJavaHome env requested installDir :
      Task ε (Option Path)) := by
  unfold Configure.resolveJavaHome
  split
  · exact .pure _
  refine .bind (.look _) fun there => ?_
  split
  · exact .bind (.say env (by decide) _) fun _ => .pure _
  · exact .bind (.say env (by decide) _) fun _ => .pure _

/-- Architectures that do not match are warned about, and no more than that. -/
theorem Architecture.mild_warnings (required : Option String) (machine : String)
    (is64Bit : Bool) : Mild (warnings required machine is64Bit) := by
  rcases required with _ | name
  · exact .nil
  · apply Mild.append
    · split
      · exact .nil
      · exact .single (by decide) _
    · split
      · exact .single (by decide) _
      · exact .nil

theorem Setup.findDistribution_modest (options : SetupOptions) (runtime : Runtime) :
    Modest IsPlain (Setup.findDistribution env options runtime) := by
  have introduced : Modest IsPlain (Setup.introduce env options runtime) :=
    .bind (.say env (by decide) _) fun _ =>
      .bind (.sayAll env (Architecture.mild_warnings _ _ _)) fun _ => .say env (by decide) _
  refine .bind introduced fun _ => ?_
  exact .bind (Setup.provideDefaultConfig_modest _ _) fun _ => Setup.findArchive_modest _ _

theorem Unpack.unpackArchive_modest (archive marker destination : Path) (force : Bool) :
    Modest (fun error => ∀ module archive, error ≠ .missingInstaller module archive)
      (Unpack.unpackArchive env archive marker destination force) := by
  have missing : ∀ module other,
      SetupError.missingArchive archive ≠ .missingInstaller module other := by simp
  have listed : Modest _ (unpackListed env archive destination) :=
    (unpackListed_modest archive destination).mono fun _ => IsPlain.ne_missingInstaller
  unfold Unpack.unpackArchive
  refine .bind (.look _) fun needed => ?_
  split
  · exact .bind (.say env (by decide) _) fun _ => .pure _
  refine .bind (.look _) fun there => ?_
  dsimp only
  split
  · exact .bind (.throw missing) fun _ => listed
  · exact listed

/-- Preparing the configuration does not fail for want of the installer. -/
theorem Setup.prepare_modest (options : SetupOptions) (runtime : Runtime) :
    Modest (fun error => ∀ module archive, error ≠ .missingInstaller module archive)
      (Setup.prepare env options runtime) := by
  have finding : Modest _ (Setup.findDistribution env options runtime) :=
    (Setup.findDistribution_modest options runtime).mono fun _ => IsPlain.ne_missingInstaller
  refine .bind finding fun archive => ?_
  exact .bind (Unpack.unpackArchive_modest _ _ _ _) fun _ => .pure archive

/-- Configuring the bridge does not fail for want of the archive. -/
theorem Configure.configure_spares_archive {paths : InstallPaths} {archive : Path}
    {options : SetupOptions} {installer : Installer} :
    Task.FailsOnly (fun error => ∀ archive, error ≠ .missingArchive archive)
      (Configure.configure env paths archive options installer) := by
  have bridged (error : BridgeError) :
      ∀ archive, SetupError.ofBridge error ≠ .missingArchive archive := by
    cases error <;> simp [SetupError.ofBridge]
  have unloaded (error : BridgeError) :
      ∀ other, Configure.loadFailure archive error ≠ .missingArchive other := by
    cases error <;> simp [Configure.loadFailure, SetupError.ofBridge]
  unfold Configure.configure
  refine .bind (.look _) fun configured => ?_
  split
  · exact (Modest.bind (.say env (by decide) _) fun _ => .pure _).failsOnly
  refine .bind (.note _) fun _ => .bind (.ofReply unloaded env _) fun writer => ?_
  refine .bind (Configure.resolveJavaHome_modest _ _).failsOnly fun javaHome => ?_
  exact .bind (.note _) fun _ => .bind (.sayAll env _) fun _ => .ofReply bridged env _

end Plain

/-! ## The steps before the configuration -/

namespace Setup

variable {env : Environment} {options : SetupOptions} {runtime : Runtime} {installer : Installer}
  {session : Session}

/-- The three steps before the configuration succeed one after the other: there is a default
configuration, the archive is located, and it is unpacked. -/
def Readies (env : Environment) (options : SetupOptions) (runtime : Runtime) (session : Session)
    (archive : Path) (left : Session) : Prop :=
  ∃ provided located outcome,
    (provideDefaultConfig env options (pathsFor options runtime)).runOn
      (session.recordAll env (introduction options runtime)) = (.ok (), provided) ∧
    (findArchive env options (pathsFor options runtime)).runOn provided =
      (.ok archive, located) ∧
    (Unpack.unpackArchive env archive (pathsFor options runtime).marker options.installDir
      options.force).runOn located = (.ok outcome, left)

theorem readies_iff {archive : Path} {left : Session} :
    Readies env options runtime session archive left ↔
      (prepare env options runtime).runOn session = (.ok archive, left) := by
  constructor
  · rintro ⟨provided, located, outcome, provide, find, unpack⟩
    exact prepare_of_steps provide find unpack
  · intro prepared
    rcases prepare_eq_ok prepared with
      ⟨provided, located, outcome, _, provide, find, unpack, _, _⟩
    exact ⟨provided, located, outcome, provide, find, unpack⟩

/-- Where the archive of the distribution lies in a Java module that is a directory. -/
def libraryArchive (options : SetupOptions) (runtime : Runtime) : Path :=
  (options.javaModule.child Distribution.libraryDirectory).child
    (pathsFor options runtime).distribution.archiveName

/-- The archive is missing: it has to be unpacked, the Java module is no file from which it
could be extracted, and it is not below the Java module either. -/
structure LacksArchive (env : Environment) (options : SetupOptions) (runtime : Runtime)
    (tree : FileTree) : Prop where
  needed : Unpack.isNeeded env tree (pathsFor options runtime).marker options.force = true
  notFile : tree.isFile env.workingDirectory options.javaModule = false
  absent : tree.pathExists env.workingDirectory (libraryArchive options runtime) = false

/-- An archive that has been extracted from a Java module is there. -/
theorem pathExists_of_extractMember {archive path directory : Path} {member : String}
    {before after : Session}
    (run : (Unpack.extractMember env archive member directory).runOn before =
      (.ok path, after)) : after.files.pathExists env.workingDirectory path = true := by
  rcases Unpack.extractMember_eq_ok run with
    ⟨_, _, _, _, _, files, _, _, _, _, _, _, wrote, rfl, rfl⟩
  rcases Unpack.writeMember_ok wrote with ⟨room, location, _, targets, writable, _, _, rfl⟩
  exact targets.pathExists_set writable.free _ _

/-- A preparation ends with a missing archive exactly when the archive is missing once the
default configuration is there, and nothing else has been done by then. -/
theorem prepare_eq_missingArchive_iff {archive : Path} {left : Session} :
    (prepare env options runtime).runOn session = (.error (.missingArchive archive), left) ↔
      (provideDefaultConfig env options (pathsFor options runtime)).runOn
          (session.recordAll env (introduction options runtime)) = (.ok (), left) ∧
        LacksArchive env options runtime left.files ∧
        archive = libraryArchive options runtime := by
  have introducing := introduce_run env options runtime session
  constructor
  · intro run
    rw [prepare, findDistribution] at run
    rcases Task.runOn_bind_eq_error run with failed | ⟨found, located, finding, run⟩
    · have plain := (findDistribution_modest options runtime).failsOnly _ _ _ failed
      exact plain.elim
    rw [Task.runOn_bind_of_ok introducing] at finding
    rcases Task.runOn_bind_eq_ok finding with ⟨_, provided, provide, find⟩
    rcases Task.runOn_bind_eq_error run with failed | ⟨_, _, _, ended⟩
    swap
    · cases ended
    rw [Unpack.unpackArchive_run] at failed
    split at failed
    swap
    · cases failed
    next needed =>
    split at failed
    · have plain := (Unpack.unpackListed_modest _ _).failsOnly _ _ _ failed
      exact plain.elim
    next absent =>
    cases failed
    have grown := (@findArchive_along env provided.files options runtime provided).grows
    rw [find] at grown
    rw [findArchive_run, if_pos (Unpack.isNeeded_of_grows grown needed)] at find
    rcases Unpack.locateArchive_eq_ok find with ⟨_, _, extracted⟩ | ⟨notFile, rfl, rfl⟩
    · exact absurd (pathExists_of_extractMember extracted) absent
    · have expected := Unpack.libraryArchive_eq options.javaModule
        (pathsFor options runtime).distribution
      exact ⟨provide, ⟨needed, notFile, by simpa [libraryArchive, expected] using absent⟩,
        expected.symm⟩
  · rintro ⟨provide, lacks, rfl⟩
    have find : (findArchive env options (pathsFor options runtime)).runOn left =
        (.ok (libraryArchive options runtime), left) := by
      rw [findArchive_run, if_pos lacks.needed]
      simp only [Unpack.locateArchive, Task.runOn_bind, Task.runOn_look, lacks.notFile,
        Bool.false_eq_true, ↓reduceIte, Unpack.expectedArchive_of_not_isFile lacks.notFile,
        libraryArchive, Unpack.libraryArchive_eq]
    have stopped : (Unpack.unpackArchive env (libraryArchive options runtime)
        (pathsFor options runtime).marker options.installDir options.force).runOn left =
          (.error (.missingArchive (libraryArchive options runtime)), left) := by
      rw [Unpack.unpackArchive_run, if_pos lacks.needed, if_neg (by simp [lacks.absent])]
    rw [prepare, findDistribution, Task.runOn_bind, Task.runOn_bind_of_ok introducing,
      Task.runOn_bind_of_ok provide, find]
    simp only [Task.runOn_bind, stopped]

/-! ## The calls of a run -/

open Configure (Needed loading loadFailure requestIn)

/-- A run comes to loading the installer: the steps before have succeeded, and in what they
have left there is something to configure. -/
def Loads (env : Environment) (options : SetupOptions) (runtime : Runtime) (session : Session)
    (archive : Path) (left : Session) : Prop :=
  Readies env options runtime session archive left ∧
    Needed env (pathsFor options runtime) options left.files

/-- How the calls that a run makes and its result follow from its steps. The files that a
loaded installer meets are those that it has left when it was loaded, but for the log. -/
structure Gated (env : Environment) (options : SetupOptions) (runtime : Runtime)
    (installer : Installer) (session : Session) (made : List Call)
    (result : Except SetupError Int) : Prop where
  loadsOnce : made.countP Call.isLoad ≤ 1
  loads_iff : ∀ module, .load module ∈ made ↔
    module = (pathsFor options runtime).installerModule ∧
      ∃ archive left, Loads env options runtime session archive left
  writesOnce : made.countP Call.isWrite ≤ 1
  writes_iff : ∀ request, .write request ∈ made ↔ ∃ archive left writer,
    Loads env options runtime session archive left ∧
    (loading installer (pathsFor options runtime) left).result = .ok writer ∧
    request = requestIn env (pathsFor options runtime) options
      (loading installer (pathsFor options runtime) left).files
  skipped : ∀ archive left, Readies env options runtime session archive left →
    ¬ Needed env (pathsFor options runtime) options left.files → result = .ok 0
  refused : ∀ archive left failure, Loads env options runtime session archive left →
    (loading installer (pathsFor options runtime) left).result = .error failure →
    result = .error (loadFailure archive failure)
  answered : ∀ archive left writer, Loads env options runtime session archive left →
    (loading installer (pathsFor options runtime) left).result = .ok writer →
    ∃ met, env.OnlyLogs (loading installer (pathsFor options runtime) left).files met ∧
      result = ((writer.write (requestIn env (pathsFor options runtime) options
        (loading installer (pathsFor options runtime) left).files) met).result.mapError .ofBridge)
  succeeds : ∀ status, result = .ok status →
    (∀ module, .load module ∉ made) ∧ status = 0 ∨ ∃ archive left writer request met,
      Loads env options runtime session archive left ∧
      (loading installer (pathsFor options runtime) left).result = .ok writer ∧
      .write request ∈ made ∧
      env.OnlyLogs (loading installer (pathsFor options runtime) left).files met ∧
      (writer.write request met).result = .ok status

/-- A run that does not come to loading the installer calls nothing. -/
theorem gated_of_silent {result : Except SetupError Int}
    (never : ∀ archive left, ¬ Loads env options runtime session archive left)
    (skipped : ∀ archive left, Readies env options runtime session archive left →
      result = .ok 0)
    (zero : ∀ status, result = .ok status → status = 0) :
    Gated env options runtime installer session [] result where
  loadsOnce := by simp
  loads_iff module := by
    simp only [List.not_mem_nil, false_iff]
    rintro ⟨_, archive, left, loads⟩
    exact never archive left loads
  writesOnce := by simp
  writes_iff request := by
    simp only [List.not_mem_nil, false_iff]
    rintro ⟨archive, left, _, loads, _⟩
    exact never archive left loads
  skipped archive left readies _ := skipped archive left readies
  refused archive left _ loads := (never archive left loads).elim
  answered archive left _ loads := (never archive left loads).elim
  succeeds status succeeded := Or.inl ⟨by simp, zero status succeeded⟩

section Prepared

variable {archive : Path} {left : Session} {started : List Invocation}
  (readies : Readies env options runtime session archive left)

include readies

theorem Readies.unique {other : Path} {reached : Session}
    (again : Readies env options runtime session other reached) :
    other = archive ∧ reached = left := by
  have same := (readies_iff.mp again).symm.trans (readies_iff.mp readies)
  simpa using same

theorem Readies.gated_of_idle
    (idle : ¬ Needed env (pathsFor options runtime) options left.files) :
    Gated env options runtime installer session [] (.ok SetupError.successStatus) := by
  refine gated_of_silent ?_ (fun _ _ _ => rfl) ?_
  · intro other reached loads
    rcases readies.unique loads.1 with ⟨rfl, rfl⟩
    exact idle loads.2
  · intro status succeeded
    cases succeeded
    rfl

theorem Readies.gated_of_refusal {failure : BridgeError}
    (needed : Needed env (pathsFor options runtime) options left.files)
    (refusal : (loading installer (pathsFor options runtime) left).result = .error failure) :
    Gated env options runtime installer session
      (.load (pathsFor options runtime).installerModule :: started.map .start)
      (.error (loadFailure archive failure)) := by
  refine ⟨?_, ?_, ?_, ?_, ?_, ?_, ?_, ?_⟩
  · simp [List.countP_cons, List.countP_map, Function.comp_def, Call.isLoad]
  · intro module
    simp only [List.mem_cons, Call.load.injEq, List.mem_map, reduceCtorEq, and_false,
      exists_false, or_false, iff_self_and]
    rintro rfl
    exact ⟨archive, left, readies, needed⟩
  · simp [List.countP_map, Function.comp_def, Call.isWrite]
  · intro request
    simp only [List.mem_cons, reduceCtorEq, List.mem_map, and_false, exists_false, or_self,
      false_iff]
    rintro ⟨other, reached, writer, loads, loaded, _⟩
    rcases readies.unique loads.1 with ⟨rfl, rfl⟩
    cases refusal.symm.trans loaded
  · intro other reached again idle
    rcases readies.unique again with ⟨rfl, rfl⟩
    exact absurd needed idle
  · intro other reached cause loads refusedAgain
    rcases readies.unique loads.1 with ⟨rfl, rfl⟩
    cases refusal.symm.trans refusedAgain
    rfl
  · intro other reached writer loads loaded
    rcases readies.unique loads.1 with ⟨rfl, rfl⟩
    cases refusal.symm.trans loaded
  · intro status succeeded
    cases succeeded

theorem Readies.gated_of_answer {writer : ConfigWriter} {request : WriteRequest}
    {met : FileTree} {startedLater : List Invocation}
    (needed : Needed env (pathsFor options runtime) options left.files)
    (loaded : (loading installer (pathsFor options runtime) left).result = .ok writer)
    (requested : request = requestIn env (pathsFor options runtime) options
      (loading installer (pathsFor options runtime) left).files)
    (meets : env.OnlyLogs (loading installer (pathsFor options runtime) left).files met) :
    Gated env options runtime installer session
      (.load (pathsFor options runtime).installerModule ::
        (started.map .start ++ .write request :: startedLater.map .start))
      ((writer.write request met).result.mapError .ofBridge) := by
  have loads : Loads env options runtime session archive left := ⟨readies, needed⟩
  refine ⟨?_, ?_, ?_, ?_, ?_, ?_, ?_, ?_⟩
  · simp [List.countP_cons, List.countP_map, Function.comp_def, Call.isLoad]
  · intro module
    simp only [List.mem_cons, Call.load.injEq, List.mem_append, List.mem_map, reduceCtorEq,
      and_false, exists_false, or_false, iff_self_and]
    rintro rfl
    exact ⟨archive, left, loads⟩
  · simp [List.countP_cons, List.countP_map, Function.comp_def, Call.isWrite]
  · intro other
    simp only [List.mem_cons, reduceCtorEq, List.mem_append, List.mem_map, and_false,
      exists_false, Call.write.injEq, or_false, false_or]
    constructor
    · rintro rfl
      exact ⟨archive, left, writer, loads, loaded, requested⟩
    · rintro ⟨_, reached, _, loadsAgain, _, rfl⟩
      rcases readies.unique loadsAgain.1 with ⟨rfl, rfl⟩
      exact requested.symm
  · intro other reached again idle
    rcases readies.unique again with ⟨rfl, rfl⟩
    exact absurd needed idle
  · intro other reached failure loadsAgain refusal
    rcases readies.unique loadsAgain.1 with ⟨rfl, rfl⟩
    cases loaded.symm.trans refusal
  · intro other reached another loadsAgain loadedAgain
    rcases readies.unique loadsAgain.1 with ⟨rfl, rfl⟩
    cases loaded.symm.trans loadedAgain
    exact ⟨met, meets, by rw [requested]⟩
  · intro status succeeded
    right
    refine ⟨archive, left, writer, request, met, loads, loaded, by simp, meets, ?_⟩
    exact mapError_eq_ok.mp succeeded

/-- A run that has been prepared follows the conclusion that its configuration comes to. -/
theorem Readies.gated {result : Except SetupError Int} {last : Session}
    (concludes : Configure.Concludes env (pathsFor options runtime) archive options installer left
      result last) :
    ∃ made, last.calls = left.calls ++ made ∧
      Gated env options runtime installer session made result := by
  cases concludes with
  | skipped idle => exact ⟨[], by simp, readies.gated_of_idle idle⟩
  | refused needed refusal calls _ => exact ⟨_, calls, readies.gated_of_refusal needed refusal⟩
  | answered needed loaded requested meets calls _ =>
      exact ⟨_, calls, readies.gated_of_answer needed loaded requested meets⟩

end Prepared

/-! ## Missing archives -/

/-- A run ends with a missing archive exactly when its preparation does. -/
theorem run_eq_missingArchive_iff {archive : Path} {left : Session} :
    (run env options runtime installer).runOn session = (.error (.missingArchive archive), left) ↔
      (prepare env options runtime).runOn session = (.error (.missingArchive archive), left) := by
  rw [run_eq]
  constructor
  · intro failed
    rcases Task.runOn_bind_eq_error failed with preparing | ⟨found, reached, _, configuring⟩
    · exact preparing
    · exact absurd rfl (Configure.configure_spares_archive _ _ _ configuring archive)
  · intro failed
    rw [Task.runOn_bind, failed]

/-- Providing the default configuration changes that file alone, and the log, whatever comes of
it. -/
theorem locateTarget_of_provided {result : Except SetupError Unit} {left : Session}
    {location : Location}
    (provide : (provideDefaultConfig env options (pathsFor options runtime)).runOn
      (session.recordAll env (introduction options runtime)) = (result, left))
    (elsewhere : ¬ env.LogsAt location)
    (changed : left.files.get? location ≠ session.files.get? location) :
    session.files.locateTarget env.workingDirectory (pathsFor options runtime).defaultConfig =
      .ok location := by
  have introducing := session.recordAll_alike env (introduction options runtime)
  generalize session.recordAll env (introduction options runtime) = introduced
    at introducing provide
  have written {place : Location} {patch : FileTree.Patch} {files : FileTree}
      (targets : introduced.files.Targets env.workingDirectory
        (pathsFor options runtime).defaultConfig place)
      (alike : (introduced.files.patchAt place patch).Alike env.LogsAt files)
      (changed : files.get? location ≠ session.files.get? location) :
      session.files.locateTarget env.workingDirectory (pathsFor options runtime).defaultConfig =
        .ok location := by
    by_cases there : location = place
    · subst there
      exact (targets.grow introducing.symm.grows).locateTarget
    · refine absurd ?_ changed
      rw [alike.same location elsewhere, FileTree.get?_patchAt targets.proper,
        FileTree.Overlay.nodeAt_of_none, introducing.same location elsewhere]
      simp [FileTree.Overlay.single, there]
  rcases provideDefaultConfig_run env options (pathsFor options runtime) introduced with
    ⟨error, failed⟩ | ⟨_, _, found⟩ |
      ⟨place, targets, _, _, ⟨_, succeeded⟩ | ⟨error, contents, stopped⟩⟩
  · cases failed.symm.trans provide
    exact absurd (introducing.same location elsewhere) changed
  · cases found.symm.trans provide
    exact absurd (introducing.same location elsewhere) changed
  · cases succeeded.symm.trans provide
    have recorded := (introduced.withFiles (introduced.files.patchAt place
      (defaultConfigPatch options))).record_alike env (wroteEntry (pathsFor options runtime))
    exact written targets recorded changed
  · cases stopped.symm.trans provide
    exact written targets (.refl _) changed

/-- The calls and the result of a run follow from its steps. -/
theorem gated_of_run (env : Environment) (options : SetupOptions) (runtime : Runtime)
    (installer : Installer) (session : Session) :
    ∃ made, ((run env options runtime installer).runOn session).2.calls = session.calls ++ made ∧
      Gated env options runtime installer session made
        ((run env options runtime installer).runOn session).1 := by
  have silent := (@prepare_along env session.files options runtime session).calls
  rw [run_eq, Task.runOn_bind]
  rcases prepared : (prepare env options runtime).runOn session with ⟨error | archive, left⟩
  · rw [prepared] at silent
    have unready (archive : Path) (last : Session) :
        ¬ Readies env options runtime session archive last := by
      intro readies
      cases prepared.symm.trans (readies_iff.mp readies)
    refine ⟨[], by simpa using silent, gated_of_silent ?_ ?_ ?_⟩
    · intro archive last loads
      exact unready archive last loads.1
    · intro archive last readies
      exact absurd readies (unready archive last)
    · intro status succeeded
      cases succeeded
  · rw [prepared] at silent
    rw [← silent]
    exact (readies_iff.mpr prepared).gated
      (Configure.configure_concludes archive installer left)

/-- The installer is loaded exactly when the three steps before have succeeded and there is
something to configure, and asked for the configuration exactly when it could be loaded; each
happens once at most, and the result follows from the answers. The run ends with a missing
archive exactly when the default configuration could be provided and the archive is missing in
what is there by then, and in that case nothing but the default configuration has changed. -/
theorem run_gated (env : Environment) (options : SetupOptions) (runtime : Runtime)
    (installer : Installer) (session : Session) :
    ∃ made, ((run env options runtime installer).runOn session).2.calls = session.calls ++ made ∧
      Gated env options runtime installer session made
        ((run env options runtime installer).runOn session).1 ∧
      (∀ archive, ((run env options runtime installer).runOn session).1 =
          .error (.missingArchive archive) ↔
        (∃ provided, (provideDefaultConfig env options (pathsFor options runtime)).runOn
            (session.recordAll env (introduction options runtime)) = (.ok (), provided) ∧
          LacksArchive env options runtime provided.files) ∧
        archive = libraryArchive options runtime) ∧
      (∀ archive, ((run env options runtime installer).runOn session).1 =
          .error (.missingArchive archive) →
        made = [] ∧ ∀ location, ¬ env.LogsAt location →
          ((run env options runtime installer).runOn session).2.files.get? location ≠
            session.files.get? location →
          session.files.locateTarget env.workingDirectory
            (pathsFor options runtime).defaultConfig = .ok location) := by
  rcases gated_of_run env options runtime installer session with ⟨made, calls, gated⟩
  rcases ran : (run env options runtime installer).runOn session with ⟨result, left⟩
  rw [ran] at calls gated
  have missing {archive : Path} (failed : result = .error (.missingArchive archive)) :
      (prepare env options runtime).runOn session = (.error (.missingArchive archive), left) :=
    run_eq_missingArchive_iff.mp (ran.trans (by rw [failed]))
  refine ⟨made, calls, gated, ?_, ?_⟩
  · intro archive
    constructor
    · intro failed
      rcases prepare_eq_missingArchive_iff.mp (missing failed) with ⟨provide, lacks, named⟩
      exact ⟨⟨left, provide, lacks⟩, named⟩
    · rintro ⟨⟨provided, provide, lacks⟩, named⟩
      have failed : (run env options runtime installer).runOn session =
          (.error (.missingArchive archive), provided) :=
        run_eq_missingArchive_iff.mpr (prepare_eq_missingArchive_iff.mpr ⟨provide, lacks, named⟩)
      exact congrArg Prod.fst (ran.symm.trans failed)
  · intro archive failed
    have preparing := missing failed
    have silent := (@prepare_along env session.files options runtime session).calls
    rw [preparing] at silent
    refine ⟨by simpa using calls.symm.trans silent, ?_⟩
    intro location
    exact locateTarget_of_provided (prepare_eq_missingArchive_iff.mp preparing).1

end Setup

end BridgeSetup
