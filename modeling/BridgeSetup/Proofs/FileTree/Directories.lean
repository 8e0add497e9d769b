import BridgeSetup.Proofs.FileTree.Actions

/-!
# Making directories

A directory is made where nothing is, in a directory that is there; `Makes` says all of
this. Making a directory with its ancestors changes only places on the way of its path, and
when it succeeds the path is a directory. What is a directory already is left alone, so
making it again changes nothing.
-/

namespace BridgeSetup.FileTree

/-- A directory of the given path can be made at a location. -/
inductive Makes (tree : FileTree) (here : Location) (path : Path) : Location → Prop where
  | intro {used front name ending directory} (checked : checkPath path = .ok ())
      (bound : used ≤ maxLinks) (parts : path.segments = front ++ name :: ending)
      (blank : ∀ segment ∈ ending, segment = "")
      (leads : tree.Leads used (path.startFrom here) front directory)
      (isDirectory : tree.isDirectoryAt directory = true) (proper : IsName name)
      (absent : tree.get? (name :: directory) = none) :
      Makes tree here path (name :: directory)

theorem eq_dropEmptyEnd_append (segments : List String) :
    ∃ ending, (∀ segment ∈ ending, segment = "") ∧
      segments = dropEmptyEnd segments ++ ending := by
  refine ⟨(segments.reverse.takeWhile (· = "")).reverse, ?_, ?_⟩
  · intro segment member
    simpa using List.mem_takeWhile_imp (List.mem_reverse.mp member)
  · rw [dropEmptyEnd, ← List.reverse_append, List.takeWhile_append_dropWhile,
      List.reverse_reverse]

theorem getLast?_dropEmptyEnd {segments : List String} {last : String}
    (ends : (dropEmptyEnd segments).getLast? = some last) : last ≠ "" := by
  rw [dropEmptyEnd, List.getLast?_reverse] at ends
  have kept := List.head?_dropWhile_not (· = "") segments.reverse
  rw [ends] at kept
  simpa using kept

theorem makes_of_newDirectoryAt {tree : FileTree} {here : Location} {path : Path}
    {location : Location} (fresh : tree.newDirectoryAt here path = .ok location) :
    tree.Makes here path location := by
  unfold newDirectoryAt at fresh
  rcases checked : checkPath path with _ | ⟨⟩
  · simp [checked, bind, Except.bind] at fresh
  rcases ends : (dropEmptyEnd path.segments).getLast? with _ | name
  · simp [checked, bind, Except.bind, enclosing, ends, fromSystem] at fresh
  rcases walked : tree.walk maxLinks (path.startFrom here)
      (dropEmptyEnd path.segments).dropLast with _ | directory
  · simp [checked, bind, Except.bind, enclosing, ends, walked, fromSystem] at fresh
  by_cases isDirectory : tree.isDirectoryAt directory = true
  · simp only [checked, bind, Except.bind, enclosing, ends, walked, isDirectory, fromSystem,
      ↓reduceIte] at fresh
    split at fresh
    · cases fresh
    next notDots =>
    split at fresh
    · cases fresh
    next short =>
    split at fresh
    · cases fresh
    next free =>
    cases fresh
    rcases leads_of_walk walked with ⟨used, bound, leads⟩
    rcases eq_dropEmptyEnd_append path.segments with ⟨ending, blank, parts⟩
    have front := List.dropLast_append_getLast? name ends
    simp only [Bool.or_eq_true, decide_eq_true_eq, not_or] at notDots
    refine .intro checked bound ?_ blank leads isDirectory ⟨?_, notDots.2, by omega⟩
      (by simpa using free)
    · calc path.segments
        _ = dropEmptyEnd path.segments ++ ending := parts
        _ = ((dropEmptyEnd path.segments).dropLast ++ [name]) ++ ending := by rw [front]
        _ = (dropEmptyEnd path.segments).dropLast ++ name :: ending := by simp
    · simp [Path.isIdle, getLast?_dropEmptyEnd ends, notDots.1]
  · simp [checked, bind, Except.bind, enclosing, ends, walked, isDirectory, fromSystem] at fresh

theorem Makes.absent {tree : FileTree} {here : Location} {path : Path} {location : Location}
    (makes : tree.Makes here path location) :
    location ≠ [] ∧ tree.get? location = none := by
  cases makes with
  | intro _ _ _ _ _ _ _ absent => exact ⟨by simp, absent⟩

theorem Makes.fits {tree : FileTree} {here : Location} {path : Path} {location : Location}
    (makes : tree.Makes here path location) :
    tree.shapeAt location = some Node.directory.shape ∨
      tree.get? location = none ∧ ∀ target, Node.directory ≠ .link target :=
  Or.inr ⟨makes.absent.2, by simp⟩

theorem dropEmptyEnd_blank {front ending : List String} {name : String} (proper : IsName name)
    (blank : ∀ segment ∈ ending, segment = "") :
    dropEmptyEnd (front ++ name :: ending) = front ++ [name] := by
  have notEmpty : name ≠ "" := by
    rintro rfl
    exact absurd proper.notIdle (by decide)
  have dropped : ∀ segment ∈ ending.reverse, decide (segment = "") = true := by
    intro segment member
    simpa using blank segment (List.mem_reverse.mp member)
  simp only [dropEmptyEnd, List.reverse_append, List.reverse_cons, List.append_assoc,
    List.dropWhile_append_of_pos dropped, List.singleton_append]
  rw [List.dropWhile_cons_of_neg (by simpa using notEmpty)]
  simp

theorem Makes.onWay {tree : FileTree} {here : Location} {path ancestor : Path}
    {location : Location} (makes : tree.Makes here ancestor location)
    (isAncestor : Path.IsAncestor ancestor path) : tree.OnWay here path location := by
  cases makes with
  | @intro used front name ending directory _ _ parts blank leads _ proper absent =>
      have begins := isAncestor.front
      rw [parts, dropEmptyEnd_blank proper blank] at begins
      rcases begins with ⟨rest, whole⟩
      have start : path.startFrom here = ancestor.startFrom here := by
        simp [Path.startFrom, isAncestor.start]
      have onward : tree.Reaches directory (name :: rest) (name :: directory) rest := by
        refine .step ?_
        rw [advance_name proper.notIdle proper.notParent (by simp [absent])]
        exact .refl _ rest
      refine ⟨rest, ?_⟩
      rw [start, ← whole, List.append_assoc, List.singleton_append]
      exact (leads.reaches.append (name :: rest)).trans onward

theorem Makes.locate {tree : FileTree} {here : Location} {path : Path} {location : Location}
    (makes : tree.Makes here path location) :
    (tree.set location .directory).locate here path = .ok location := by
  have grows := grows_set makes.fits
  have made := get?_set_self tree makes.absent.1 .directory
  cases makes with
  | @intro used front name ending directory checked bound parts blank leads isDirectory proper
      absent =>
      have within := grows.isDirectoryAt isDirectory
      have ends : (tree.set (name :: directory) .directory).Leads 0 (name :: directory) ending
          (name :: directory) :=
        leads_blank (by simp [isDirectoryAt, made]) blank
      have enters := Leads.enter within proper made (by simp) ends
      rw [locate_eq_ok_iff, parts]
      exact ⟨checked, used + 0, bound, (leads.grow grows).append enters⟩

theorem isDirectory_iff {tree : FileTree} {here : Location} {path : Path} :
    tree.isDirectory here path = true ↔
      ∃ location, tree.locate here path = .ok location ∧
        tree.isDirectoryAt location = true := by
  unfold isDirectory find? isDirectoryAt
  rcases tree.locate here path with _ | location <;> simp

theorem Grows.isDirectory {before after : FileTree} (grows : Grows before after)
    {here : Location} {path : Path} (directory : before.isDirectory here path = true) :
    after.isDirectory here path = true := by
  rcases isDirectory_iff.mp directory with ⟨location, located, isDirectory⟩
  exact isDirectory_iff.mpr ⟨location, grows.locate located, grows.isDirectoryAt isDirectory⟩

theorem pathExists_of_isDirectory {tree : FileTree} {here : Location} {path : Path}
    (directory : tree.isDirectory here path = true) : tree.pathExists here path = true := by
  rcases isDirectory_iff.mp directory with ⟨location, located, isDirectory⟩
  exact pathExists_iff.mpr ⟨location, located, isDirectoryAt_ne_none isDirectory⟩

theorem newDirectoryAt_of_isDirectory {tree : FileTree} {here : Location} {path : Path}
    (directory : tree.isDirectory here path = true) :
    tree.newDirectoryAt here path = .error (.system .alreadyExists) := by
  rcases isDirectory_iff.mp directory with ⟨location, located, _⟩
  rcases locate_eq_ok_iff.mp located with ⟨checked, used, bound, leads⟩
  rcases ends : (dropEmptyEnd path.segments).getLast? with _ | name
  · simp [newDirectoryAt, checked, bind, Except.bind, enclosing, ends, fromSystem]
  rcases eq_dropEmptyEnd_append path.segments with ⟨ending, _, parts⟩
  have front := List.dropLast_append_getLast? name ends
  have whole : path.segments = (dropEmptyEnd path.segments).dropLast ++ name :: ending :=
    calc path.segments
      _ = dropEmptyEnd path.segments ++ ending := parts
      _ = ((dropEmptyEnd path.segments).dropLast ++ [name]) ++ ending := by rw [front]
      _ = (dropEmptyEnd path.segments).dropLast ++ name :: ending := by simp
  rcases leads.split whole with ⟨earlier, later, middle, total, toMiddle, fromMiddle⟩
  have walked : tree.walk maxLinks (path.startFrom here) (dropEmptyEnd path.segments).dropLast =
      .ok middle := toMiddle.walk_eq_ok (by omega)
  have notEmpty := getLast?_dropEmptyEnd ends
  simp only [newDirectoryAt, checked, bind, Except.bind, enclosing, ends, walked, fromSystem]
  cases fromMiddle with
  | stay isDirectory idle _ =>
      have dot : name = "." := by simpa [Path.isIdle, notEmpty] using idle
      simp [isDirectory, dot]
  | climb isDirectory _ => simp [isDirectory]
  | enter isDirectory proper found _ _ =>
      have short := Nat.not_lt.mpr proper.short
      simp [isDirectory, short, found]
  | follow isDirectory proper found _ =>
      have short := Nat.not_lt.mpr proper.short
      simp [isDirectory, short, found]

/-! ## Directories with their ancestors -/

/-- A directory is made where it can be, or the tree stays as it is. -/
theorem makeDirectory_run (tree : FileTree) (refusals : Refusals) (here : Location)
    (path : Path) :
    (∃ error, (makeDirectory here path refusals).runOn tree = (.error error, tree)) ∨
      ∃ location, tree.Makes here path location ∧
        (makeDirectory here path refusals).runOn tree =
          (.ok (), tree.set location .directory) := by
  rcases fresh : tree.newDirectoryAt here path with error | location
  · left
    simp [makeDirectory, TreeAction.runOn_bind, fresh]
  rcases refused : refusals.makeDirectory location with _ | fault
  · right
    refine ⟨location, makes_of_newDirectoryAt fresh, ?_⟩
    simp [makeDirectory, TreeAction.runOn_bind, fresh, refused]
  · left
    exact ⟨.system fault, by simp [makeDirectory, TreeAction.runOn_bind, fresh, refused]⟩

variable {here : Location} {refusals : Refusals} {path : Path} {ancestors : List Path}

theorem makeAlong_cons (named : path.text ≠ "") (tree : FileTree) :
    (makeAlong here refusals (path :: ancestors)).runOn tree =
      match (makeDirectory here path refusals).runOn tree with
      | (.ok (), made) => (.ok (), made)
      | (.error (.system .notFound), _) =>
        match (makeAlong here refusals ancestors).runOn tree with
        | (.error error, left) => (.error error, left)
        | (.ok (), left) =>
          match (makeDirectory here path refusals).runOn left with
          | (.ok (), made) => (.ok (), made)
          | (.error error, kept) =>
            if kept.isDirectory here path then (.ok (), kept) else (.error error, kept)
      | (.error error, kept) =>
        if kept.isDirectory here path then (.ok (), kept) else (.error error, kept) := by
  rw [makeAlong, if_neg named]
  rfl

/-- What making each single directory keeps, making them along the ancestors of a path keeps
as well. -/
theorem makeAlong_keeps {relation : FileTree → FileTree → Prop}
    (refl : ∀ tree, relation tree tree)
    (trans : ∀ {before middle after},
      relation before middle → relation middle after → relation before after)
    (step : ∀ ancestor ∈ ancestors, ∀ tree location, Makes tree here ancestor location →
      relation tree (tree.set location .directory)) (tree : FileTree) :
    relation tree ((makeAlong here refusals ancestors).runOn tree).2 := by
  induction ancestors with
  | nil => exact refl tree
  | cons ancestor rest ih =>
      by_cases named : ancestor.text = ""
      · rw [makeAlong, if_pos named]
        exact refl tree
      have single (tree : FileTree) :
          relation tree ((makeDirectory here ancestor refusals).runOn tree).2 := by
        rcases makeDirectory_run tree refusals here ancestor with
          ⟨error, run⟩ | ⟨location, makes, run⟩
        · rw [run]
          exact refl tree
        · rw [run]
          exact step ancestor List.mem_cons_self tree location makes
      have above := ih fun other member => step other (List.mem_cons_of_mem ancestor member)
      have first := single tree
      rw [makeAlong_cons named]
      split
      · next made run =>
          rw [run] at first
          exact first
      · split
        · next error left run =>
            rw [run] at above
            exact above
        · next left run =>
            rw [run] at above
            have second := single left
            split
            · next made again =>
                rw [again] at second
                exact trans above second
            · next error kept again =>
                rw [again] at second
                split
                · exact trans above second
                · exact trans above second
      · next error kept _ run =>
          rw [run] at first
          split
          · exact first
          · exact first

theorem makeAlong_touches
    (areAncestors : ∀ ancestor ∈ ancestors, Path.IsAncestor ancestor path) (tree : FileTree) :
    Touches (tree.OnWay here path) tree ((makeAlong here refusals ancestors).runOn tree).2 := by
  let relation (before after : FileTree) := Touches (before.OnWay here path) before after
  have trans {before middle after : FileTree} (earlier : relation before middle)
      (later : relation middle after) : relation before after :=
    Touches.trans earlier (later.onWay_grow earlier.grows)
  refine @makeAlong_keeps here refusals ancestors relation (fun tree => Touches.refl tree) trans ?_
    tree
  intro ancestor member tree location makes
  exact .set (makes.onWay (areAncestors ancestor member)) makes.fits

theorem isDirectory_of_makeAlong
    (named : path.text ≠ "") {tree left : FileTree}
    (made : (makeAlong here refusals (path :: ancestors)).runOn tree = (.ok (), left)) :
    left.isDirectory here path = true := by
  have afterwards {before after : FileTree}
      (run : (makeDirectory here path refusals).runOn before = (.ok (), after)) :
      after.isDirectory here path = true := by
    rcases makeDirectory_run before refusals here path with
      ⟨error, failed⟩ | ⟨location, makes, succeeded⟩
    · simp [failed] at run
    · rw [succeeded, Prod.mk.injEq] at run
      rcases run with ⟨_, rfl⟩
      refine isDirectory_iff.mpr ⟨location, makes.locate, ?_⟩
      simp [isDirectoryAt, makes.absent.1]
  rw [makeAlong_cons named] at made
  split at made
  · next run =>
      cases made
      exact afterwards run
  · split at made
    · cases made
    · split at made
      · next run =>
          cases made
          exact afterwards run
      · split at made
        · next directory =>
            cases made
            exact directory
        · cases made
  · split at made
    · next directory =>
        cases made
        exact directory
    · cases made

theorem ancestors_eq (path : Path) : ∃ above, path.ancestors = path :: above :=
  ⟨_, rfl⟩

theorem makeDirectories_touches (refusals : Refusals) (here : Location) (path : Path)
    (tree : FileTree) :
    Touches (tree.OnWay here path) tree ((makeDirectories here path refusals).runOn tree).2 :=
  makeAlong_touches (fun _ => Path.isAncestor_of_mem_ancestors) tree

theorem isDirectory_of_makeDirectories (named : path.text ≠ "") {tree left : FileTree}
    (made : (makeDirectories here path refusals).runOn tree = (.ok (), left)) :
    left.isDirectory here path = true := by
  rcases ancestors_eq path with ⟨above, chain⟩
  rw [makeDirectories, chain] at made
  exact isDirectory_of_makeAlong named made

theorem makeDirectories_of_isDirectory {tree : FileTree}
    (named : path.text ≠ "") (directory : tree.isDirectory here path = true) :
    (makeDirectories here path refusals).runOn tree = (.ok (), tree) := by
  rcases ancestors_eq path with ⟨above, chain⟩
  have kept : (makeDirectory here path refusals).runOn tree =
      (.error (.system .alreadyExists), tree) := by
    simp [makeDirectory, TreeAction.runOn_bind, newDirectoryAt_of_isDirectory directory]
  rw [makeDirectories, chain]
  simp [makeAlong_cons named, kept, directory]

/-- Directories that have been made need not be made again. -/
theorem makeDirectories_again {tree room later : FileTree}
    (made : (makeDirectories here path refusals).runOn tree = (.ok (), room))
    (grows : room.Grows later) :
    (makeDirectories here path refusals).runOn later = (.ok (), later) := by
  by_cases named : path.text = ""
  · rcases ancestors_eq path with ⟨above, chain⟩
    rw [makeDirectories, chain, makeAlong, if_pos named]
    rfl
  · exact makeDirectories_of_isDirectory named
      (grows.isDirectory (isDirectory_of_makeDirectories named made))

end BridgeSetup.FileTree
