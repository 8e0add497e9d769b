import BridgeSetup.Interpreter.Discovery
import BridgeSetup.Proofs.FileTree.Executables

/-!
# Which interpreter is chosen

Two orders meet when no interpreter is asked for: that of the names, and that of the entries of
the search path. A single name is searched for in all entries before the next name is tried, so
an entry counts only if no entry at all has an earlier name. `Provides` is the inner search, with
the earliest entry that has the name, and `Tried` the outer one, with what is said about each name.

Between two names a line is logged, and the log may be a file; that changes nothing about what can
be executed (`FileTree.SamePermissions`).
-/

namespace BridgeSetup

namespace Environment

variable {env : Environment} {tree : FileTree} {name : String} {path : Path}

/-- The entries of the search path, none if it is not set. -/
def pathEntries (env : Environment) : List String :=
  (env.searchPath.map (Text.splitAt ':')).getD []

/-- Where an entry of the search path would have a program of the given name. -/
def programUnder (env : Environment) (name entry : String) : Path :=
  (env.searchedDirectory entry).join ⟨name⟩

/-- An entry of the search path has a regular file of the given name that may be executed. -/
def HasProgram (env : Environment) (tree : FileTree) (name entry : String) : Prop :=
  tree.isExecutable env.workingDirectory (env.programUnder name entry) = true

/-- The earliest entry that has a program of the given name has it at this path. -/
inductive Provides (env : Environment) (tree : FileTree) (name : String) : Path → Prop where
  | earliest {before entry after} (entries : env.pathEntries = before ++ entry :: after)
      (has : env.HasProgram tree name entry)
      (without : ∀ other ∈ before, ¬ env.HasProgram tree name other) :
      Provides env tree name (env.programUnder name entry)

/-- No entry of the search path has a program of the given name. -/
def Lacks (env : Environment) (tree : FileTree) (name : String) : Prop :=
  ∀ entry ∈ env.pathEntries, ¬ env.HasProgram tree name entry

/-- A name that is searched for along the search path. -/
structure IsSearched (name : String) : Prop where
  relative : (⟨name⟩ : Path).isAbsolute = false
  single : (⟨name⟩ : Path).components.length ≤ 1

theorem searchCandidates_of_isSearched (searched : IsSearched name) :
    env.searchCandidates ⟨name⟩ =
      match env.searchPath with
      | none => .error .noSearchPath
      | some _ => .ok (env.pathEntries.map (env.programUnder name)) := by
  have along : ((⟨name⟩ : Path).isAbsolute || 1 < (⟨name⟩ : Path).components.length) = false := by
    simp [searched.relative, searched.single]
  unfold searchCandidates pathEntries
  rw [along]
  rcases env.searchPath with _ | entries
  · rfl
  · rfl

theorem provides_iff :
    env.Provides tree name path ↔
      (env.pathEntries.map (env.programUnder name)).find? (tree.isExecutable env.workingDirectory) =
        some path := by
  simp only [List.find?_map, Option.map_eq_some_iff, List.find?_eq_some_iff_append,
    Function.comp_apply, Bool.not_eq_true', ← Bool.not_eq_true]
  constructor
  · rintro ⟨entries, has, without⟩
    exact ⟨_, ⟨has, _, _, entries, without⟩, rfl⟩
  · rintro ⟨entry, ⟨has, before, after, entries, without⟩, rfl⟩
    exact .earliest entries has without

theorem lacks_iff :
    env.Lacks tree name ↔
      (env.pathEntries.map (env.programUnder name)).find? (tree.isExecutable env.workingDirectory) =
        none := by
  simp [Lacks, HasProgram]

theorem toOption_search (searched : IsSearched name) :
    (env.search tree ⟨name⟩).toOption =
      (env.pathEntries.map (env.programUnder name)).find?
        (tree.isExecutable env.workingDirectory) := by
  unfold search
  rw [searchCandidates_of_isSearched searched]
  rcases known : env.searchPath with _ | text
  · simp [pathEntries, known, bind, Except.bind, Except.toOption]
  · simp only [bind, Except.bind]
    split
    · next found => simp [found, Except.toOption]
    · next found => simp [found, Except.toOption]

theorem search_eq_ok_iff (searched : IsSearched name) :
    env.search tree ⟨name⟩ = .ok path ↔ env.Provides tree name path := by
  rw [provides_iff, ← toOption_search searched]
  rcases env.search tree ⟨name⟩ with failure | found <;> simp [Except.toOption]

theorem search_fails_iff (searched : IsSearched name) :
    (∃ failure, env.search tree ⟨name⟩ = .error failure) ↔ env.Lacks tree name := by
  rw [lacks_iff, ← toOption_search searched]
  rcases env.search tree ⟨name⟩ with failure | found <;> simp [Except.toOption]

theorem Provides.iff (provides : env.Provides tree name path) {other : Path} :
    env.Provides tree name other ↔ path = other := by
  rw [provides_iff] at provides ⊢
  simp [provides]

theorem Provides.not_lacks (provides : env.Provides tree name path) : ¬ env.Lacks tree name := by
  rw [provides_iff] at provides
  simp [lacks_iff, provides]

section Permissions

variable {first second : FileTree} (same : first.SamePermissions second)

include same

theorem hasProgram_congr {entry : String} :
    env.HasProgram second name entry ↔ env.HasProgram first name entry := by
  rw [HasProgram, HasProgram, same.isExecutable_eq]

theorem lacks_congr : env.Lacks second name ↔ env.Lacks first name := by
  simp only [Lacks, hasProgram_congr same]

theorem provides_congr : env.Provides second name path ↔ env.Provides first name path := by
  have isExecutable : second.isExecutable env.workingDirectory =
      first.isExecutable env.workingDirectory := funext (same.isExecutable_eq _)
  rw [provides_iff, provides_iff, isExecutable]

end Permissions

end Environment

namespace Interpreter

open Environment (IsSearched)

/-- What is said about a name that has been found, and about one that has not. -/
def foundEntry (name : String) (path : Path) : Entry :=
  ⟨.debug, "Found " ++ name ++ " at " ++ path.text⟩

def missingEntry (name : String) : Entry :=
  ⟨.debug, name ++ " not found on PATH"⟩

/-- What trying names in order comes to, and what is said about them. -/
inductive Tried (env : Environment) (tree : FileTree) :
    List String → Except DiscoveryError Path → List Entry → Prop where
  | found {name others path} (provides : env.Provides tree name path) :
      Tried env tree (name :: others) (.ok path) [foundEntry name path]
  | missing {name others result said} (lacks : env.Lacks tree name)
      (onward : Tried env tree others result said) :
      Tried env tree (name :: others) result (missingEntry name :: said)
  | exhausted : Tried env tree [] (.error (.noInterpreter
      ("none of " ++ ", ".intercalate candidates ++ " is on PATH; pass --python"))) []

section Choice

variable {env : Environment}

theorem Tried.congr {first second : FileTree} (same : first.SamePermissions second)
    {names : List String} {result : Except DiscoveryError Path} {said : List Entry}
    (tried : Tried env second names result said) : Tried env first names result said := by
  induction tried with
  | found provides => exact .found ((Environment.provides_congr same).mp provides)
  | missing lacks _ ih => exact .missing ((Environment.lacks_congr same).mp lacks) ih
  | exhausted => exact .exhausted

theorem findAmong_tried {names : List String} (searched : ∀ name ∈ names, IsSearched name)
    (session : Session) :
    ∃ result said, (findAmong env names).runOn session = (result, session.recordAll env said) ∧
      Tried env session.files names result said := by
  induction names generalizing session with
  | nil => exact ⟨_, _, rfl, .exhausted⟩
  | cons name others ih =>
      have proper := searched name List.mem_cons_self
      simp only [findAmong, Task.runOn_bind, Task.runOn_look]
      rcases found : env.search session.files ⟨name⟩ with failure | path
      · have lacks := (Environment.search_fails_iff proper).mp ⟨failure, found⟩
        -- The other names are tried after a line has been logged.
        let heard := session.record env (missingEntry name)
        rcases ih (fun other member => searched other (List.mem_cons_of_mem name member)) heard with
          ⟨result, said, run, tried⟩
        have unchanged := session.record_samePermissions env (missingEntry name)
        refine ⟨result, missingEntry name :: said, ?_, .missing lacks (tried.congr unchanged)⟩
        rw [Task.runOn_bind, Task.runOn_say]
        exact run
      · have provides := (Environment.search_eq_ok_iff proper).mp found
        exact ⟨.ok path, [foundEntry name path], rfl, .found provides⟩

theorem isSearched_candidates : ∀ name ∈ candidates, IsSearched name := by
  simp only [candidates, List.forall_mem_cons, List.not_mem_nil, false_implies, implies_true,
    and_true]
  exact ⟨⟨by decide, by decide⟩, ⟨by decide, by decide⟩⟩

/-- What comes of choosing an interpreter when none is asked for, and what is said. -/
structure Prefers (env : Environment) (tree : FileTree) (result : Except DiscoveryError Path)
    (said : List Entry) : Prop where
  tried : Tried env tree ["python3", "python"] result said
  ok_iff : ∀ path, result = .ok path ↔ env.Provides tree "python3" path ∨
    env.Lacks tree "python3" ∧ env.Provides tree "python" path
  failure_iff : (∃ detail, result = .error (.noInterpreter detail)) ↔
    env.Lacks tree "python3" ∧ env.Lacks tree "python"

theorem Tried.prefers {tree : FileTree} {result : Except DiscoveryError Path} {said : List Entry}
    (tried : Tried env tree candidates result said) : Prefers env tree result said := by
  suffices deciding : (∀ path, result = .ok path ↔ env.Provides tree "python3" path ∨
      env.Lacks tree "python3" ∧ env.Provides tree "python" path) ∧
      ((∃ detail, result = .error (.noInterpreter detail)) ↔
        env.Lacks tree "python3" ∧ env.Lacks tree "python") from
    ⟨tried, deciding.1, deciding.2⟩
  cases tried with
  | found provides =>
      constructor
      · intro path
        simp [provides.iff, provides.not_lacks]
      · simp [provides.not_lacks]
  | missing lacks onward =>
      have notFirst (path : Path) : ¬ env.Provides tree "python3" path :=
        fun provides => provides.not_lacks lacks
      cases onward with
      | found provides =>
          constructor
          · intro path
            simp [notFirst, lacks, provides.iff]
          · simp [provides.not_lacks]
      | missing lacksToo onward =>
          have notSecond (path : Path) : ¬ env.Provides tree "python" path :=
            fun provides => provides.not_lacks lacksToo
          cases onward
          constructor
          · intro path
            simp [notFirst, notSecond]
          · simp [lacks, lacksToo]

/-- What comes of choosing the interpreter that is asked for. -/
structure Takes (env : Environment) (tree : FileTree) (requested : Path)
    (result : Except DiscoveryError Path) : Prop where
  itself_iff : result = .ok requested ↔
    tree.isFile env.workingDirectory requested = true ∨
      env.search tree requested = .ok requested
  searched : tree.isFile env.workingDirectory requested = false →
    ∀ path, result = .ok path ↔ env.search tree requested = .ok path
  refused : tree.isFile env.workingDirectory requested = false →
    ∀ failure, env.search tree requested = .error failure →
      result = .error (.noInterpreter ("'" ++ requested.text ++ "': " ++ failure.message))

theorem find_requested (session : Session) (requested : Path) :
    (find env (some requested)).runOn session =
      (if session.files.isFile env.workingDirectory requested then .ok requested
        else (env.search session.files requested).mapError fun failure =>
          .noInterpreter ("'" ++ requested.text ++ "': " ++ failure.message), session) := by
  simp only [find, Task.runOn_bind, Task.runOn_look]
  split
  · rfl
  · simp only [Task.runOn_bind, Task.runOn_look]
    rcases env.search session.files requested with failure | path
    · rfl
    · rfl

theorem find_takes (session : Session) (requested : Path) :
    ∃ result, (find env (some requested)).runOn session = (result, session) ∧
      Takes env session.files requested result := by
  refine ⟨_, find_requested session requested, ?_⟩
  constructor
  · split
    · next file => simp [file]
    · next other => simp [other]
  · intro other path
    simp [other]
  · intro other failure found
    simp [other, found]

/-- When no interpreter is asked for, the first name that is on the search path wins, and of
the entries that have it the earliest one. One that is asked for is taken if it is a regular file
and searched for otherwise, and no other one takes its place. -/
theorem find_chooses (env : Environment) (session : Session) :
    (∃ result said, (find env none).runOn session = (result, session.recordAll env said) ∧
      Prefers env session.files result said) ∧
    ∀ requested, ∃ result, (find env (some requested)).runOn session = (result, session) ∧
      Takes env session.files requested result := by
  refine ⟨?_, find_takes session⟩
  rcases findAmong_tried isSearched_candidates session with ⟨result, said, run, tried⟩
  exact ⟨result, said, run, tried.prefers⟩

end Choice

end Interpreter

end BridgeSetup
