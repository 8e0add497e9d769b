import BridgeSetup.Proofs.FileTree.Ways

/-!
# Places on the way of a path

A path is followed one segment at a time by `advance`, which enters what is missing as if
it were a directory. `Reaches` are its runs: the places on the way of a path, whether they
are there yet or not. Because no step looks at anything but symbolic links, the way of a
path is the same before and after a tree has grown.

Whatever an operation on a path changes lies on the way of that path. So a path that leads
somewhere led there already unless there is something new on its way (`Leads.ungrow`).
-/

namespace BridgeSetup.FileTree

/-- Where a traveller is after one more segment, and the segments that lie ahead then. -/
def advance (tree : FileTree) (here : Location) (segment : String) (rest : List String) :
    Location × List String :=
  if Path.isIdle segment then (here, rest)
  else if segment = ".." then (here.tail, rest)
  else
    match tree.get? (segment :: here) with
    | some (.link target) => (target.startFrom here, target.segments ++ rest)
    | _ => (segment :: here, rest)

/-- A traveller with some segments ahead comes to a place, with others ahead then. -/
inductive Reaches (tree : FileTree) : Location → List String → Location → List String →
    Prop where
  | refl (here : Location) (ahead : List String) : Reaches tree here ahead here ahead
  | step {here segment rest there left}
      (onward : Reaches tree (tree.advance here segment rest).1
        (tree.advance here segment rest).2 there left) :
      Reaches tree here (segment :: rest) there left

/-- A location lies on the way of a path. -/
def OnWay (tree : FileTree) (here : Location) (path : Path) (location : Location) : Prop :=
  ∃ left, tree.Reaches (path.startFrom here) path.segments location left

/-- No symbolic links lie below a location. -/
def PlainBelow (tree : FileTree) (root : Location) : Prop :=
  ∀ name names target, tree.get? (name :: (names ++ root)) ≠ some (.link target)

/-! ## Single steps -/

section Steps

variable {tree : FileTree} {here : Location} {segment : String} {rest : List String}

theorem advance_idle (idle : Path.isIdle segment = true) :
    tree.advance here segment rest = (here, rest) := by
  simp [advance, idle]

theorem advance_parent : tree.advance here ".." rest = (here.tail, rest) := by
  have notIdle : Path.isIdle ".." = false := by decide
  simp [advance, notIdle]

theorem advance_link {target : Path} (proper : IsName segment)
    (found : tree.get? (segment :: here) = some (.link target)) :
    tree.advance here segment rest = (target.startFrom here, target.segments ++ rest) := by
  simp [advance, proper.notIdle, proper.notParent, found]

theorem advance_name (notIdle : Path.isIdle segment = false) (notParent : segment ≠ "..")
    (solid : ∀ target, tree.get? (segment :: here) ≠ some (.link target)) :
    tree.advance here segment rest = (segment :: here, rest) := by
  rcases found : tree.get? (segment :: here) with _ | ⟨_, _⟩ | _ | target
  · simp [advance, notIdle, notParent, found]
  · simp [advance, notIdle, notParent, found]
  · simp [advance, notIdle, notParent, found]
  · exact absurd found (solid target)

theorem advance_append (back : List String) :
    tree.advance here segment (rest ++ back) =
      ((tree.advance here segment rest).1, (tree.advance here segment rest).2 ++ back) := by
  unfold advance
  split
  · rfl
  · split
    · rfl
    · split <;> simp

/-- Growth changes no step, because it makes no symbolic links and changes none. -/
theorem Grows.advance_eq {before after : FileTree} (grows : Grows before after) :
    after.advance here segment rest = before.advance here segment rest := by
  unfold advance
  split
  · rfl
  split
  · rfl
  by_cases isLink : ∃ target, before.get? (segment :: here) = some (.link target)
  · rcases isLink with ⟨target, found⟩
    simp [found, grows.link_iff.mpr found]
  · split
    · next target found => exact absurd ⟨target, grows.link_iff.mp found⟩ isLink
    · split
      · next target found => exact absurd ⟨target, found⟩ isLink
      · rfl

end Steps

/-! ## Runs -/

theorem Reaches.grow {before after : FileTree} {here there : Location}
    {ahead left : List String} (reaches : before.Reaches here ahead there left)
    (grows : Grows before after) : after.Reaches here ahead there left := by
  induction reaches with
  | refl here ahead => exact .refl here ahead
  | step _ ih => exact .step (by rw [grows.advance_eq]; exact ih)

theorem Reaches.ungrow {before after : FileTree} {here there : Location}
    {ahead left : List String} (reaches : after.Reaches here ahead there left)
    (grows : Grows before after) : before.Reaches here ahead there left := by
  induction reaches with
  | refl here ahead => exact .refl here ahead
  | step _ ih => exact .step (by rw [← grows.advance_eq]; exact ih)

theorem Grows.onWay_iff {before after : FileTree} (grows : Grows before after)
    {here : Location} {path : Path} {location : Location} :
    after.OnWay here path location ↔ before.OnWay here path location := by
  constructor
  · rintro ⟨left, reaches⟩
    exact ⟨left, reaches.ungrow grows⟩
  · rintro ⟨left, reaches⟩
    exact ⟨left, reaches.grow grows⟩

theorem Reaches.trans {tree : FileTree} {here middle there : Location}
    {ahead between left : List String} (toMiddle : tree.Reaches here ahead middle between)
    (fromMiddle : tree.Reaches middle between there left) :
    tree.Reaches here ahead there left := by
  induction toMiddle with
  | refl _ _ => exact fromMiddle
  | step _ ih => exact .step (ih fromMiddle)

theorem Reaches.append {tree : FileTree} {here there : Location} {ahead left : List String}
    (reaches : tree.Reaches here ahead there left) (back : List String) :
    tree.Reaches here (ahead ++ back) there (left ++ back) := by
  induction reaches with
  | refl here ahead => exact .refl here (ahead ++ back)
  | step _ ih =>
      rw [List.cons_append]
      exact .step (by rwa [advance_append])

/-- A traveller who has come to a place came there along the first segments, or went first
to where they lead. -/
theorem Reaches.split {tree : FileTree} {here there : Location} {ahead left : List String}
    (reaches : tree.Reaches here ahead there left) :
    ∀ {front back : List String}, ahead = front ++ back →
      (∃ kept, left = kept ++ back ∧ tree.Reaches here front there kept) ∨
        ∃ middle, tree.Reaches here front middle [] ∧ tree.Reaches middle back there left := by
  induction reaches with
  | refl here ahead =>
      intro front back parts
      exact Or.inl ⟨front, parts, .refl here front⟩
  | @step here segment rest there left onward ih =>
      intro front back parts
      rcases List.append_eq_cons_iff.mp parts.symm with ⟨rfl, rfl⟩ | ⟨front, rfl, rfl⟩
      · exact Or.inr ⟨here, .refl here [], .step onward⟩
      · have later : (tree.advance here segment (front ++ back)).2 =
            (tree.advance here segment front).2 ++ back := by
          rw [advance_append]
        rcases ih later with ⟨kept, rfl, along⟩ | ⟨middle, toMiddle, fromMiddle⟩
        · refine Or.inl ⟨kept, rfl, .step ?_⟩
          rwa [advance_append] at along
        · refine Or.inr ⟨middle, .step ?_, fromMiddle⟩
          rwa [advance_append] at toMiddle

theorem Leads.reaches {tree : FileTree} {used : Nat} {here : Location}
    {segments : List String} {last : Location} (leads : tree.Leads used here segments last) :
    tree.Reaches here segments last [] := by
  induction leads with
  | arrive here => exact .refl here []
  | stay _ idle _ ih => exact .step (by rwa [advance_idle idle])
  | climb _ _ ih => exact .step (by rwa [advance_parent])
  | enter _ proper found solid _ ih =>
      refine .step ?_
      rw [advance_name proper.notIdle proper.notParent]
      · exact ih
      · intro target isLink
        rw [found, Option.some.injEq] at isLink
        exact solid target isLink
  | follow _ proper found _ ih => exact .step (by rwa [advance_link proper found])

theorem Places.reaches {tree : FileTree} {used : Nat} {here : Location}
    {segments : List String} {last : Location} (places : tree.Places used here segments last) :
    tree.Reaches here segments last [] := by
  induction places with
  | @name here segment _ proper solid =>
      refine .step ?_
      rw [advance_name proper.notIdle proper.notParent solid]
      exact .refl _ []
  | stay _ idle _ ih => exact .step (by rwa [advance_idle idle])
  | climb _ _ ih => exact .step (by rwa [advance_parent])
  | enter _ proper found solid _ ih =>
      refine .step ?_
      rw [advance_name proper.notIdle proper.notParent]
      · exact ih
      · intro target isLink
        rw [found, Option.some.injEq] at isLink
        exact solid target isLink
  | follow _ proper found _ ih => exact .step (by rwa [advance_link proper found])

/-- Every place on the way of segments that lead somewhere leads on to the same place. -/
theorem Leads.of_reaches {tree : FileTree} {here there : Location} {segments left : List String}
    (reaches : tree.Reaches here segments there left) :
    ∀ {used : Nat} {last : Location}, tree.Leads used here segments last →
      ∃ later, tree.Leads later there left last := by
  induction reaches with
  | refl here ahead =>
      intro used last leads
      exact ⟨used, leads⟩
  | @step here segment rest there left _ ih =>
      intro used last leads
      cases leads with
      | stay _ idle onward =>
          rw [advance_idle idle] at ih
          exact ih onward
      | climb _ onward =>
          rw [advance_parent] at ih
          exact ih onward
      | enter _ proper found solid onward =>
          rw [advance_name proper.notIdle proper.notParent] at ih
          · exact ih onward
          · intro target isLink
            rw [found, Option.some.injEq] at isLink
            exact solid target isLink
      | follow _ proper found onward =>
          rw [advance_link proper found] at ih
          exact ih onward

/-! ## What is on the way -/

theorem Leads.isDirectoryAt {tree : FileTree} {used : Nat} {here : Location}
    {segments : List String} {last : Location} (leads : tree.Leads used here segments last)
    (directory : tree.isDirectoryAt last = true) : tree.isDirectoryAt here = true := by
  cases leads with
  | arrive => exact directory
  | stay directory _ _ => exact directory
  | climb directory _ => exact directory
  | enter directory _ _ _ _ => exact directory
  | follow directory _ _ _ => exact directory

theorem Reaches.unique {tree : FileTree} {here first second : Location}
    {segments left : List String} (toFirst : tree.Reaches here segments first left)
    (ended : left = [])
    (toSecond : tree.Reaches here segments second []) : first = second := by
  induction toFirst with
  | refl here ahead =>
      subst ended
      cases toSecond
      rfl
  | step _ ih =>
      cases toSecond with
      | step onward => exact ih ended onward

theorem isDirectoryAt_ne_none {tree : FileTree} {location : Location}
    (directory : tree.isDirectoryAt location = true) : tree.get? location ≠ none := by
  simp only [FileTree.isDirectoryAt, decide_eq_true_eq] at directory
  simp [directory]

theorem Leads.present_of_reaches {tree : FileTree} {used : Nat} {here there last : Location}
    {segments left : List String} (leads : tree.Leads used here segments last)
    (present : tree.get? last ≠ none) (reaches : tree.Reaches here segments there left) :
    tree.get? there ≠ none := by
  rcases Leads.of_reaches reaches leads with ⟨later, onward⟩
  rcases left with _ | ⟨segment, rest⟩
  · cases onward
    exact present
  · exact isDirectoryAt_ne_none onward.isDirectoryAt_of_cons

/-- A way through a grown tree is a way through the earlier tree, unless there is something
new on it. -/
theorem Leads.ungrow {before after : FileTree} (grows : Grows before after) {used : Nat}
    {here : Location} {segments : List String} {last : Location}
    (leads : after.Leads used here segments last)
    (old : ∀ there left, after.Reaches here segments there left → after.get? there ≠ none →
      before.get? there ≠ none) : before.Leads used here segments last := by
  have oldDirectory {here : Location} (directory : after.isDirectoryAt here = true)
      (oldHere : after.get? here ≠ none → before.get? here ≠ none) :
      before.isDirectoryAt here = true :=
    grows.isDirectoryAt_of_present (oldHere (isDirectoryAt_ne_none directory)) directory
  induction leads with
  | arrive here => exact .arrive here
  | stay directory idle _ ih =>
      refine .stay (oldDirectory directory (old _ _ (.refl _ _))) idle (ih ?_)
      intro there left reaches
      exact old there left (.step (by rwa [advance_idle idle]))
  | climb directory _ ih =>
      refine .climb (oldDirectory directory (old _ _ (.refl _ _))) (ih ?_)
      intro there left reaches
      exact old there left (.step (by rwa [advance_parent]))
  | @enter links here segment rest last node directory proper found solid _ ih =>
      have through : after.advance here segment rest = (segment :: here, rest) :=
        advance_name proper.notIdle proper.notParent (by simpa [found] using solid)
      have present : before.get? (segment :: here) ≠ none :=
        old _ rest (.step (by rw [through]; exact .refl _ _)) (by simp [found])
      rcases Option.ne_none_iff_exists'.mp present with ⟨earlier, foundEarlier⟩
      refine .enter (oldDirectory directory (old _ _ (.refl _ _))) proper foundEarlier ?_ (ih ?_)
      · rintro target rfl
        rw [← grows.link_iff, found, Option.some.injEq] at foundEarlier
        exact solid target foundEarlier
      · intro there left reaches
        exact old there left (.step (by rwa [through]))
  | follow directory proper found _ ih =>
      refine .follow (oldDirectory directory (old _ _ (.refl _ _))) proper
        (grows.link_iff.mp found) (ih ?_)
      intro there left reaches
      exact old there left (.step (by rwa [advance_link proper found]))

end BridgeSetup.FileTree
