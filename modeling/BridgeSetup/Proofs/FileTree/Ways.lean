import BridgeSetup.Proofs.FileTree.Growth

/-!
# Ways through a file tree

`Leads` is walking as a relation: it counts the symbolic links that are followed, and has
one constructor for each thing that a segment can do. A walk succeeds exactly along such a
way (`walk_eq_ok_iff`). `Places` does the same for the place of a regular file, where the
last name need not be there yet (`places_of_place`, `Places.place_eq_ok`).

Both relations are kept when a tree grows, and once there is a node in its place, the way
of a file to be written is a way that can be walked (`Places.leads`).
-/

namespace BridgeSetup.FileTree

/-- A segment under which a directory can have an entry. -/
structure IsName (segment : String) : Prop where
  notIdle : Path.isIdle segment = false
  notParent : segment ≠ ".."
  short : segment.utf8ByteSize ≤ maxNameLength

/-- The segments lead from a location to another, over the given number of symbolic links. -/
inductive Leads (tree : FileTree) : Nat → Location → List String → Location → Prop where
  | arrive (here : Location) : Leads tree 0 here [] here
  | stay {links here segment rest last} (directory : tree.isDirectoryAt here = true)
      (idle : Path.isIdle segment = true) (onward : Leads tree links here rest last) :
      Leads tree links here (segment :: rest) last
  | climb {links here rest last} (directory : tree.isDirectoryAt here = true)
      (onward : Leads tree links here.tail rest last) :
      Leads tree links here (".." :: rest) last
  | enter {links here segment rest last} {node : Node}
      (directory : tree.isDirectoryAt here = true) (proper : IsName segment)
      (found : tree.get? (segment :: here) = some node)
      (solid : ∀ target, node ≠ .link target)
      (onward : Leads tree links (segment :: here) rest last) :
      Leads tree links here (segment :: rest) last
  | follow {links here segment rest last} {target : Path}
      (directory : tree.isDirectoryAt here = true) (proper : IsName segment)
      (found : tree.get? (segment :: here) = some (.link target))
      (onward : Leads tree links (target.startFrom here) (target.segments ++ rest) last) :
      Leads tree (links + 1) here (segment :: rest) last

/-- The segments lead to the location of a regular file, which need not be there, over the
given number of symbolic links. -/
inductive Places (tree : FileTree) : Nat → Location → List String → Location → Prop where
  | name {here segment} (directory : tree.isDirectoryAt here = true) (proper : IsName segment)
      (solid : ∀ target, tree.get? (segment :: here) ≠ some (.link target)) :
      Places tree 0 here [segment] (segment :: here)
  | stay {links here segment rest last} (directory : tree.isDirectoryAt here = true)
      (idle : Path.isIdle segment = true) (onward : Places tree links here rest last) :
      Places tree links here (segment :: rest) last
  | climb {links here rest last} (directory : tree.isDirectoryAt here = true)
      (onward : Places tree links here.tail rest last) :
      Places tree links here (".." :: rest) last
  | enter {links here segment rest last} {node : Node}
      (directory : tree.isDirectoryAt here = true) (proper : IsName segment)
      (found : tree.get? (segment :: here) = some node)
      (solid : ∀ target, node ≠ .link target)
      (onward : Places tree links (segment :: here) rest last) :
      Places tree links here (segment :: rest) last
  | follow {links here segment rest last} {target : Path}
      (directory : tree.isDirectoryAt here = true) (proper : IsName segment)
      (found : tree.get? (segment :: here) = some (.link target))
      (onward : Places tree links (target.startFrom here) (target.segments ++ rest) last) :
      Places tree (links + 1) here (segment :: rest) last

/-! ## Walking -/

/-- What a walk does at a symbolic link when it may still follow this many. -/
def continuation (tree : FileTree) : Nat → Path → Location → List String →
    Except Fault Location
  | 0 => fun _ _ _ => .error .tooManyLinks
  | links + 1 => fun target origin rest =>
    tree.walk links (target.startFrom origin) (target.segments ++ rest)

theorem walk_eq_stepThrough (tree : FileTree) (links : Nat) (here : Location)
    (segments : List String) :
    tree.walk links here segments = tree.stepThrough (tree.continuation links) here segments := by
  cases links <;> rfl

private theorem leads_of_stepThrough {tree : FileTree} {links : Nat} {last : Location}
    {follow : Path → Location → List String → Except Fault Location}
    (followed : ∀ target origin rest, follow target origin rest = .ok last →
      ∃ used < links, tree.Leads used (target.startFrom origin) (target.segments ++ rest) last)
    {segments : List String} : ∀ {here : Location},
      tree.stepThrough follow here segments = .ok last →
        ∃ used ≤ links, tree.Leads used here segments last := by
  induction segments with
  | nil =>
      intro here reached
      simp only [stepThrough, Except.ok.injEq] at reached
      subst reached
      exact ⟨0, Nat.zero_le links, .arrive here⟩
  | cons segment rest ih =>
      intro here reached
      unfold stepThrough at reached
      split at reached
      · cases reached
      next directory =>
      simp only [Bool.not_eq_true, Bool.not_eq_false'] at directory
      split at reached
      · next idle =>
          rcases ih reached with ⟨used, bound, onward⟩
          exact ⟨used, bound, .stay directory idle onward⟩
      next notIdle =>
      split at reached
      · next parent =>
          subst parent
          rcases ih reached with ⟨used, bound, onward⟩
          exact ⟨used, bound, .climb directory onward⟩
      next notParent =>
      split at reached
      · cases reached
      next short =>
      have proper : IsName segment := ⟨by simpa using notIdle, notParent, by omega⟩
      split at reached
      · cases reached
      · next target found =>
          rcases followed target here rest reached with ⟨used, bound, onward⟩
          exact ⟨used + 1, bound, .follow directory proper found onward⟩
      · next node notLink found =>
          rcases ih reached with ⟨used, bound, onward⟩
          exact ⟨used, bound, .enter directory proper found notLink onward⟩

theorem leads_of_walk {tree : FileTree} {links : Nat} {here : Location}
    {segments : List String} {last : Location}
    (reached : tree.walk links here segments = .ok last) :
    ∃ used ≤ links, tree.Leads used here segments last := by
  induction links generalizing here segments with
  | zero =>
      refine leads_of_stepThrough ?_ reached
      intro target origin rest impossible
      cases impossible
  | succ links ih =>
      refine leads_of_stepThrough ?_ reached
      intro target origin rest continued
      rcases ih continued with ⟨used, bound, onward⟩
      exact ⟨used, by omega, onward⟩

theorem Leads.walk_eq_ok {tree : FileTree} {used : Nat} {here : Location}
    {segments : List String} {last : Location} (leads : tree.Leads used here segments last)
    {links : Nat} (bound : used ≤ links) : tree.walk links here segments = .ok last := by
  induction leads generalizing links with
  | arrive here => simp [walk_eq_stepThrough, stepThrough]
  | stay directory idle _ ih =>
      simpa [walk_eq_stepThrough, stepThrough, directory, idle] using ih bound
  | climb directory _ ih =>
      have notIdle : Path.isIdle ".." = false := by decide
      simpa [walk_eq_stepThrough, stepThrough, directory, notIdle] using ih bound
  | enter directory proper found solid _ ih =>
      have short := Nat.not_lt.mpr proper.short
      simpa [walk_eq_stepThrough, stepThrough, directory, proper.notIdle, proper.notParent,
        short, found, solid] using ih bound
  | follow directory proper found _ ih =>
      have short := Nat.not_lt.mpr proper.short
      rcases links with _ | links
      · omega
      · simpa [walk_eq_stepThrough _ (links + 1), stepThrough, continuation, directory,
          proper.notIdle, proper.notParent, short, found] using ih (Nat.le_of_succ_le_succ bound)

/-- A walk succeeds exactly along a way with few enough symbolic links. -/
theorem walk_eq_ok_iff {tree : FileTree} {links : Nat} {here : Location}
    {segments : List String} {last : Location} :
    tree.walk links here segments = .ok last ↔
      ∃ used ≤ links, tree.Leads used here segments last :=
  ⟨leads_of_walk, fun ⟨_, bound, leads⟩ => leads.walk_eq_ok bound⟩

theorem Leads.unique {tree : FileTree} {firstLinks secondLinks : Nat} {here : Location}
    {segments : List String} {first second : Location}
    (toFirst : tree.Leads firstLinks here segments first)
    (toSecond : tree.Leads secondLinks here segments second) : first = second := by
  have walkFirst := toFirst.walk_eq_ok (Nat.le_max_left firstLinks secondLinks)
  have walkSecond := toSecond.walk_eq_ok (Nat.le_max_right firstLinks secondLinks)
  rw [walkFirst, Except.ok.injEq] at walkSecond
  exact walkSecond

theorem Leads.eq_of_walk {tree : FileTree} {used links : Nat} {here : Location}
    {segments : List String} {first second : Location}
    (toFirst : tree.Leads used here segments first)
    (reached : tree.walk links here segments = .ok second) : first = second := by
  rcases leads_of_walk reached with ⟨_, _, toSecond⟩
  exact toFirst.unique toSecond

/-- A way along segments goes through the place to which its first segments lead. -/
theorem Leads.split {tree : FileTree} {used : Nat} {here : Location} {segments : List String}
    {last : Location} (leads : tree.Leads used here segments last) :
    ∀ {front back : List String}, segments = front ++ back →
      ∃ earlier later middle, earlier + later = used ∧ tree.Leads earlier here front middle ∧
        tree.Leads later middle back last := by
  induction leads with
  | arrive here =>
      intro front back parts
      rcases List.append_eq_nil_iff.mp parts.symm with ⟨rfl, rfl⟩
      exact ⟨0, 0, here, rfl, .arrive here, .arrive here⟩
  | @stay links here segment rest last directory idle onward ih =>
      intro front back parts
      rcases List.append_eq_cons_iff.mp parts.symm with ⟨rfl, rfl⟩ | ⟨front, rfl, rfl⟩
      · exact ⟨0, links, here, Nat.zero_add _, .arrive here, .stay directory idle onward⟩
      · rcases ih rfl with ⟨earlier, later, middle, total, toMiddle, fromMiddle⟩
        exact ⟨earlier, later, middle, total, .stay directory idle toMiddle, fromMiddle⟩
  | @climb links here rest last directory onward ih =>
      intro front back parts
      rcases List.append_eq_cons_iff.mp parts.symm with ⟨rfl, rfl⟩ | ⟨front, rfl, rfl⟩
      · exact ⟨0, links, here, Nat.zero_add _, .arrive here, .climb directory onward⟩
      · rcases ih rfl with ⟨earlier, later, middle, total, toMiddle, fromMiddle⟩
        exact ⟨earlier, later, middle, total, .climb directory toMiddle, fromMiddle⟩
  | @enter links here segment rest last node directory proper found solid onward ih =>
      intro front back parts
      rcases List.append_eq_cons_iff.mp parts.symm with ⟨rfl, rfl⟩ | ⟨front, rfl, rfl⟩
      · exact ⟨0, links, here, Nat.zero_add _, .arrive here,
          .enter directory proper found solid onward⟩
      · rcases ih rfl with ⟨earlier, later, middle, total, toMiddle, fromMiddle⟩
        exact ⟨earlier, later, middle, total, .enter directory proper found solid toMiddle,
          fromMiddle⟩
  | @follow links here segment rest last target directory proper found onward ih =>
      intro front back parts
      rcases List.append_eq_cons_iff.mp parts.symm with ⟨rfl, rfl⟩ | ⟨front, rfl, rfl⟩
      · exact ⟨0, links + 1, here, Nat.zero_add _, .arrive here,
          .follow directory proper found onward⟩
      · rcases ih (List.append_assoc _ _ _).symm with
          ⟨earlier, later, middle, total, toMiddle, fromMiddle⟩
        exact ⟨earlier + 1, later, middle, by omega, .follow directory proper found toMiddle,
          fromMiddle⟩

theorem Leads.append {tree : FileTree} {earlier later : Nat} {here middle last : Location}
    {front back : List String} (toMiddle : tree.Leads earlier here front middle)
    (fromMiddle : tree.Leads later middle back last) :
    tree.Leads (earlier + later) here (front ++ back) last := by
  induction toMiddle with
  | arrive here =>
      rw [Nat.zero_add]
      exact fromMiddle
  | stay directory idle _ ih => exact .stay directory idle (ih fromMiddle)
  | climb directory _ ih => exact .climb directory (ih fromMiddle)
  | enter directory proper found solid _ ih =>
      exact .enter directory proper found solid (ih fromMiddle)
  | follow directory proper found _ ih =>
      rw [Nat.add_right_comm, List.cons_append]
      refine .follow directory proper found ?_
      rw [← List.append_assoc]
      exact ih fromMiddle

/-- Separators at the end of a path to a directory change nothing. -/
theorem leads_blank {tree : FileTree} {here : Location} {segments : List String}
    (directory : tree.isDirectoryAt here = true) (blank : ∀ segment ∈ segments, segment = "") :
    tree.Leads 0 here segments here := by
  induction segments with
  | nil => exact .arrive here
  | cons segment rest ih =>
      have empty := blank segment List.mem_cons_self
      subst empty
      refine .stay directory (by decide) (ih ?_)
      intro other member
      exact blank other (List.mem_cons_of_mem "" member)

theorem Leads.isDirectoryAt_of_cons {tree : FileTree} {used : Nat} {here last : Location}
    {segment : String} {rest : List String} (leads : tree.Leads used here (segment :: rest) last) :
    tree.isDirectoryAt here = true := by
  cases leads with
  | stay directory _ _ => exact directory
  | climb directory _ => exact directory
  | enter directory _ _ _ _ => exact directory
  | follow directory _ _ _ => exact directory

theorem Leads.grow {before after : FileTree} {used : Nat} {here : Location}
    {segments : List String} {last : Location} (leads : before.Leads used here segments last)
    (grows : Grows before after) : after.Leads used here segments last := by
  induction leads with
  | arrive here => exact .arrive here
  | stay directory idle _ ih => exact .stay (grows.isDirectoryAt directory) idle ih
  | climb directory _ ih => exact .climb (grows.isDirectoryAt directory) ih
  | @enter links here segment _ _ node directory proper found solid _ ih =>
      have present : before.get? (segment :: here) ≠ none := by simp [found]
      rcases Option.ne_none_iff_exists'.mp (grows.present present) with ⟨grown, foundLater⟩
      refine .enter (grows.isDirectoryAt directory) proper foundLater ?_ ih
      rintro target rfl
      rw [grows.link_iff, found, Option.some.injEq] at foundLater
      exact solid target foundLater
  | follow directory proper found _ ih =>
      exact .follow (grows.isDirectoryAt directory) proper (grows.link_iff.mpr found) ih

/-! ## The place of a file -/

/-- What looking for the place of a file does at a symbolic link when it may still follow
this many. -/
def placeContinuation (tree : FileTree) : Nat → Path → Location → List String →
    Except Fault Location
  | 0 => fun _ _ _ => .error .tooManyLinks
  | links + 1 => fun target origin rest =>
    tree.place links (target.startFrom origin) (target.segments ++ rest)

theorem place_eq_stepToPlace (tree : FileTree) (links : Nat) (here : Location)
    (segments : List String) :
    tree.place links here segments =
      tree.stepToPlace (tree.placeContinuation links) here segments := by
  cases links <;> rfl

theorem segments_ne_nil (path : Path) : path.segments ≠ [] := by
  simp [Path.segments, Text.splitAt, Text.pieces_ne_nil]

private theorem places_of_placeLast {tree : FileTree} {links : Nat} {here last : Location}
    {follow : Path → Location → List String → Except Fault Location} {segment : String}
    {rest : List String}
    (followed : ∀ target origin rest, follow target origin rest = .ok last →
      tree.isDirectoryAt last = true ∨ ∃ used < links,
        tree.Places used (target.startFrom origin) (target.segments ++ rest) last)
    (directory : tree.isDirectoryAt here = true) (notEmpty : segment ≠ "")
    (reached : tree.placeLast follow here segment (!rest.isEmpty) = .ok last) :
    tree.isDirectoryAt last = true ∨
      ∃ used ≤ links, tree.Places used here (segment :: rest) last := by
  unfold placeLast at reached
  split at reached
  · cases reached
  next plain =>
  simp only [Bool.or_eq_true, decide_eq_true_eq, Bool.not_eq_true', not_or,
    Bool.not_eq_false, List.isEmpty_iff] at plain
  rcases plain with ⟨⟨notDot, notParent⟩, rfl⟩
  split at reached
  · cases reached
  next short =>
  have proper : IsName segment :=
    ⟨by simp [Path.isIdle, notEmpty, notDot], notParent, by omega⟩
  split at reached
  · next target found =>
      rcases followed target here [] reached with isDirectory | ⟨used, bound, onward⟩
      · exact Or.inl isDirectory
      · exact Or.inr ⟨used + 1, bound, .follow directory proper found onward⟩
  · next notLink =>
      simp only [Except.ok.injEq] at reached
      subst reached
      exact Or.inr ⟨0, Nat.zero_le links, .name directory proper notLink⟩

private theorem places_of_stepToPlace {tree : FileTree} {links : Nat} {last : Location}
    {follow : Path → Location → List String → Except Fault Location}
    (followed : ∀ target origin rest, follow target origin rest = .ok last →
      tree.isDirectoryAt last = true ∨ ∃ used < links,
        tree.Places used (target.startFrom origin) (target.segments ++ rest) last)
    {segments : List String} : ∀ {here : Location},
      segments ≠ [] ∨ tree.isDirectoryAt here = true →
      tree.stepToPlace follow here segments = .ok last →
        tree.isDirectoryAt last = true ∨ ∃ used ≤ links, tree.Places used here segments last := by
  induction segments with
  | nil =>
      intro here started reached
      simp only [stepToPlace, Except.ok.injEq] at reached
      subst reached
      exact Or.inl (started.resolve_left (by simp))
  | cons segment rest ih =>
      intro here _ reached
      unfold stepToPlace at reached
      split at reached
      · cases reached
      next directory =>
      simp only [Bool.not_eq_true, Bool.not_eq_false'] at directory
      split at reached
      · next empty =>
          subst empty
          rcases ih (Or.inr directory) reached with isDirectory | ⟨used, bound, onward⟩
          · exact Or.inl isDirectory
          · exact Or.inr ⟨used, bound, .stay directory (by decide) onward⟩
      next notEmpty =>
      split at reached
      · exact places_of_placeLast followed directory notEmpty reached
      next unfinished =>
      have remaining : rest ≠ [] := by
        rintro rfl
        simp at unfinished
      split at reached
      · next dot =>
          subst dot
          rcases ih (Or.inl remaining) reached with isDirectory | ⟨used, bound, onward⟩
          · exact Or.inl isDirectory
          · exact Or.inr ⟨used, bound, .stay directory (by decide) onward⟩
      next notDot =>
      split at reached
      · next parent =>
          subst parent
          rcases ih (Or.inl remaining) reached with isDirectory | ⟨used, bound, onward⟩
          · exact Or.inl isDirectory
          · exact Or.inr ⟨used, bound, .climb directory onward⟩
      next notParent =>
      split at reached
      · cases reached
      next short =>
      have proper : IsName segment :=
        ⟨by simp [Path.isIdle, notEmpty, notDot], notParent, by omega⟩
      split at reached
      · cases reached
      · next target found =>
          rcases followed target here rest reached with isDirectory | ⟨used, bound, onward⟩
          · exact Or.inl isDirectory
          · exact Or.inr ⟨used + 1, bound, .follow directory proper found onward⟩
      · next node notLink found =>
          rcases ih (Or.inl remaining) reached with isDirectory | ⟨used, bound, onward⟩
          · exact Or.inl isDirectory
          · exact Or.inr ⟨used, bound, .enter directory proper found notLink onward⟩

/-- The place that is found is that of a directory, which cannot be written, or it is found
along a way. -/
theorem places_of_place {tree : FileTree} {links : Nat} {here : Location}
    {segments : List String} {last : Location} (started : segments ≠ [])
    (reached : tree.place links here segments = .ok last) :
    tree.isDirectoryAt last = true ∨ ∃ used ≤ links, tree.Places used here segments last := by
  induction links generalizing here segments with
  | zero =>
      refine places_of_stepToPlace ?_ (Or.inl started) reached
      intro target origin rest impossible
      cases impossible
  | succ links ih =>
      refine places_of_stepToPlace ?_ (Or.inl started) reached
      intro target origin rest continued
      have remaining : target.segments ++ rest ≠ [] := by simp [segments_ne_nil]
      rcases ih remaining continued with isDirectory | ⟨used, bound, onward⟩
      · exact Or.inl isDirectory
      · exact Or.inr ⟨used, by omega, onward⟩

theorem Places.getLast? {tree : FileTree} {used : Nat} {here : Location}
    {segments : List String} {last : Location} (places : tree.Places used here segments last) :
    ∃ name, segments.getLast? = some name ∧ name ≠ "" := by
  have nonempty {segment : String} (proper : IsName segment) : segment ≠ "" := by
    rintro rfl
    exact absurd proper.notIdle (by decide)
  induction places with
  | name _ proper _ => exact ⟨_, rfl, nonempty proper⟩
  | @stay _ _ segment rest _ _ _ _ ih
  | @enter _ _ segment rest _ _ _ _ _ _ _ ih =>
      rcases ih with ⟨name, ends, notEmpty⟩
      exact ⟨name, by simp [List.getLast?_cons, ends], notEmpty⟩
  | @climb _ _ rest _ _ _ ih =>
      rcases ih with ⟨name, ends, notEmpty⟩
      exact ⟨name, by simp [List.getLast?_cons, ends], notEmpty⟩
  | @follow _ _ segment rest _ target _ proper _ _ ih =>
      rcases rest.eq_nil_or_concat with rfl | ⟨front, name, rfl⟩
      · exact ⟨segment, rfl, nonempty proper⟩
      · simpa [List.getLast?_cons] using ih

private theorem Places.notBlank {tree : FileTree} {used : Nat} {here : Location}
    {segments : List String} {last : Location} (places : tree.Places used here segments last) :
    segments.all (· = "") = false := by
  rcases places.getLast? with ⟨name, ends, notEmpty⟩
  have member := List.mem_of_getLast? ends
  rw [List.all_eq_false]
  exact ⟨name, member, by simpa using notEmpty⟩

theorem Places.place_eq_ok {tree : FileTree} {used : Nat} {here : Location}
    {segments : List String} {last : Location} (places : tree.Places used here segments last)
    {links : Nat} (bound : used ≤ links) : tree.place links here segments = .ok last := by
  induction places generalizing links with
  | @name here segment directory proper solid =>
      have short := Nat.not_lt.mpr proper.short
      have notIdle := proper.notIdle
      simp only [Path.isIdle, Bool.or_eq_false_iff, decide_eq_false_iff_not] at notIdle
      simp only [place_eq_stepToPlace, stepToPlace, directory, notIdle.1, placeLast, notIdle.2,
        proper.notParent, short]
      rcases found : tree.get? (segment :: here) with _ | ⟨_, _⟩ | _ | target
      · simp
      · simp
      · simp
      · exact absurd found (solid target)
  | @stay links here segment rest last directory idle onward ih =>
      have remaining := onward.notBlank
      simp only [Path.isIdle, Bool.or_eq_true, decide_eq_true_eq] at idle
      rcases idle with rfl | rfl
      · simpa [place_eq_stepToPlace, stepToPlace, directory] using ih bound
      · simpa [place_eq_stepToPlace, stepToPlace, directory, remaining] using ih bound
  | @climb links here rest last directory onward ih =>
      have remaining := onward.notBlank
      simpa [place_eq_stepToPlace, stepToPlace, directory, remaining] using ih bound
  | @enter links here segment rest last node directory proper found solid onward ih =>
      have remaining := onward.notBlank
      have short := Nat.not_lt.mpr proper.short
      have notIdle := proper.notIdle
      simp only [Path.isIdle, Bool.or_eq_false_iff, decide_eq_false_iff_not] at notIdle
      simpa [place_eq_stepToPlace, stepToPlace, directory, remaining, notIdle, short,
        proper.notParent, found, solid] using ih bound
  | @follow used here segment rest last target directory proper found onward ih =>
      have short := Nat.not_lt.mpr proper.short
      have notIdle := proper.notIdle
      simp only [Path.isIdle, Bool.or_eq_false_iff, decide_eq_false_iff_not] at notIdle
      rcases links with _ | links
      · omega
      have continued := ih (Nat.le_of_succ_le_succ bound)
      rcases rest.eq_nil_or_concat with rfl | ⟨front, name, rfl⟩
      · simpa [place_eq_stepToPlace _ (links + 1), stepToPlace, placeContinuation,
          placeLast, directory, notIdle, short, proper.notParent, found] using continued
      · -- A name that more segments follow is passed, unless nothing but separators follows.
        rcases onward.getLast? with ⟨ending, ends, notEmpty⟩
        have same : name = ending := by simpa using ends
        have remaining : (front ++ [name]).all (· = "") = false := by
          simp [same, notEmpty]
        rw [place_eq_stepToPlace _ (links + 1)]
        unfold stepToPlace
        simpa [remaining, directory, notIdle, short, proper.notParent, found,
          placeContinuation] using continued

theorem Places.grow {before after : FileTree} {used : Nat} {here : Location}
    {segments : List String} {last : Location} (places : before.Places used here segments last)
    (grows : Grows before after) : after.Places used here segments last := by
  induction places with
  | name directory proper solid =>
      refine .name (grows.isDirectoryAt directory) proper ?_
      intro target found
      exact solid target (grows.link_iff.mp found)
  | stay directory idle _ ih => exact .stay (grows.isDirectoryAt directory) idle ih
  | climb directory _ ih => exact .climb (grows.isDirectoryAt directory) ih
  | @enter links here segment _ _ node directory proper found solid _ ih =>
      have present : before.get? (segment :: here) ≠ none := by simp [found]
      rcases Option.ne_none_iff_exists'.mp (grows.present present) with ⟨grown, foundLater⟩
      refine .enter (grows.isDirectoryAt directory) proper foundLater ?_ ih
      rintro target rfl
      rw [grows.link_iff, found, Option.some.injEq] at foundLater
      exact solid target foundLater
  | follow directory proper found _ ih =>
      exact .follow (grows.isDirectoryAt directory) proper (grows.link_iff.mpr found) ih

/-- Once there is a node in its place, the way of a file is a way that can be walked. -/
theorem Places.leads {tree : FileTree} {used : Nat} {here : Location}
    {segments : List String} {last : Location} (places : tree.Places used here segments last)
    (present : tree.get? last ≠ none) : tree.Leads used here segments last := by
  induction places with
  | name directory proper solid =>
      rcases Option.ne_none_iff_exists'.mp present with ⟨node, found⟩
      refine .enter directory proper found ?_ (.arrive _)
      rintro target rfl
      exact solid target found
  | stay directory idle _ ih => exact .stay directory idle (ih present)
  | climb directory _ ih => exact .climb directory (ih present)
  | enter directory proper found solid _ ih =>
      exact .enter directory proper found solid (ih present)
  | follow directory proper found _ ih => exact .follow directory proper found (ih present)

/-- A file is placed in a directory under a name that is no symbolic link. -/
theorem Places.target {tree : FileTree} {used : Nat} {here : Location}
    {segments : List String} {last : Location} (places : tree.Places used here segments last) :
    last ≠ [] ∧ ∀ target, tree.get? last ≠ some (.link target) := by
  induction places with
  | name _ _ solid => exact ⟨by simp, solid⟩
  | stay _ _ _ ih | climb _ _ ih | enter _ _ _ _ _ ih | follow _ _ _ _ ih => exact ih

/-- The way of a file goes through the directory to which its first segments lead. -/
theorem Places.split {tree : FileTree} {used : Nat} {here : Location} {segments : List String}
    {last : Location} (places : tree.Places used here segments last) :
    ∀ {front back : List String}, segments = front ++ back → back ≠ [] →
      ∃ earlier ≤ used, ∃ middle, tree.Leads earlier here front middle ∧
        tree.isDirectoryAt middle = true := by
  induction places with
  | @name here segment directory proper solid =>
      intro front back parts remaining
      rcases List.append_eq_cons_iff.mp parts.symm with ⟨rfl, rfl⟩ | ⟨front, rfl, ended⟩
      · exact ⟨0, Nat.zero_le _, here, .arrive here, directory⟩
      · exact absurd (List.append_eq_nil_iff.mp ended.symm).2 remaining
  | stay directory idle _ ih =>
      intro front back parts remaining
      rcases List.append_eq_cons_iff.mp parts.symm with ⟨rfl, rfl⟩ | ⟨front, rfl, rfl⟩
      · exact ⟨0, Nat.zero_le _, _, .arrive _, directory⟩
      · rcases ih rfl remaining with ⟨earlier, bound, middle, toMiddle, isDirectory⟩
        exact ⟨earlier, bound, middle, .stay directory idle toMiddle, isDirectory⟩
  | climb directory _ ih =>
      intro front back parts remaining
      rcases List.append_eq_cons_iff.mp parts.symm with ⟨rfl, rfl⟩ | ⟨front, rfl, rfl⟩
      · exact ⟨0, Nat.zero_le _, _, .arrive _, directory⟩
      · rcases ih rfl remaining with ⟨earlier, bound, middle, toMiddle, isDirectory⟩
        exact ⟨earlier, bound, middle, .climb directory toMiddle, isDirectory⟩
  | enter directory proper found solid _ ih =>
      intro front back parts remaining
      rcases List.append_eq_cons_iff.mp parts.symm with ⟨rfl, rfl⟩ | ⟨front, rfl, rfl⟩
      · exact ⟨0, Nat.zero_le _, _, .arrive _, directory⟩
      · rcases ih rfl remaining with ⟨earlier, bound, middle, toMiddle, isDirectory⟩
        exact ⟨earlier, bound, middle, .enter directory proper found solid toMiddle, isDirectory⟩
  | follow directory proper found _ ih =>
      intro front back parts remaining
      rcases List.append_eq_cons_iff.mp parts.symm with ⟨rfl, rfl⟩ | ⟨front, rfl, rfl⟩
      · exact ⟨0, Nat.zero_le _, _, .arrive _, directory⟩
      · rcases ih (List.append_assoc _ _ _).symm remaining with
          ⟨earlier, bound, middle, toMiddle, isDirectory⟩
        exact ⟨earlier + 1, by omega, middle, .follow directory proper found toMiddle,
          isDirectory⟩

end BridgeSetup.FileTree
