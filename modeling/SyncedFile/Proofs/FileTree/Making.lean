import SyncedFile.FileTree.Directories
import SyncedFile.Proofs.FileTree.Walks
import SyncedFile.Proofs.Path.Split

/-!
# Making directories

Making the directories of a path adds directories and leaves all else as it is, whether it comes to
the end or is refused on the way.

* `exists_above`, `isDirectory_above` — what stands above the last name of a path;
* `exists_of_makeDirectory`, `makeDirectory_of_isDirectory` — one directory;
* `AddsDirectories` — what making directories does to a tree;
* `Makes`, `makes_makeDirectories` — how the directories of a path are made, one after the other;
* `Makes.adds`, `Makes.isDirectory` — what that leaves.
-/

namespace SyncedFile.FileTree

variable {path : Text}

theorem above_eq (path : Text) :
    above path = if (Path.split path).2 = [] then Path.split (Path.split path).1
      else Path.split path := rfl

/-- A path is what stands above it, some slashes, its last name, and more slashes. -/
theorem exists_above (path : Text) :
    ∃ slashes final, path = (above path).1 ++ List.replicate slashes '/' ++ (above path).2 ++
        List.replicate final '/' ∧
      '/' ∉ (above path).2 ∧
      Path.names path = Path.names (above path).1 ++ Path.names (above path).2 := by
  obtain ⟨slashes, whole, absent, found⟩ := Path.exists_split path
  rw [above_eq]
  split
  · next empty =>
    obtain ⟨more, head, absent, inner⟩ := Path.exists_split (Path.split path).1
    rw [empty, List.append_nil] at whole
    rw [empty] at found
    refine ⟨more, slashes, ?_, absent, ?_⟩
    · rw [← head]
      exact whole
    · rw [found, inner]
      exact List.append_nil _
  · exact ⟨slashes, 0, by rw [List.replicate_zero, List.append_nil]; exact whole, absent, found⟩

theorem prefix_above (path : Text) : (above path).1 <+: path := by
  obtain ⟨slashes, final, whole, -, -⟩ := exists_above path
  refine ⟨List.replicate slashes '/' ++ (above path).2 ++ List.replicate final '/', ?_⟩
  rw [← List.append_assoc, ← List.append_assoc]
  exact whole.symm

/-- What stands above a last name is shorter than the path, so that going up comes to an end. -/
theorem length_above_lt (named : (above path).2 ≠ []) :
    (above path).1.length < path.length := by
  obtain ⟨slashes, final, whole, -, -⟩ := exists_above path
  have positive := List.length_pos_of_ne_nil named
  have sum := congrArg List.length whole
  simp only [List.length_append] at sum
  omega

theorem isTaken_above (taken : IsTaken path) (nonempty : (above path).1 ≠ []) :
    IsTaken (above path).1 := by
  have lead := prefix_above path
  refine ⟨nonempty, fun mem => taken.notMem_nul (lead.subset mem), ?_⟩
  obtain ⟨rest, eq⟩ := lead
  have fits := taken.byteLength_le
  rw [← eq, Text.byteLength_append] at fits
  omega

variable {tree after : FileTree}

theorem isDirectory_above (rooted : tree.IsRooted) (standing : tree.isDirectory path = true)
    (nonempty : (above path).1 ≠ []) : tree.isDirectory (above path).1 = true := by
  obtain ⟨place, located, found⟩ := at?_eq_some_iff.1 (isDirectory_iff.1 standing)
  obtain ⟨taken, links, few, leads⟩ := locate_eq_ok_iff.1 located
  obtain ⟨-, -, -, absent, names⟩ := exists_above path
  have pieces : ((Text.splitOn '/' (above path).1) ++ [(above path).2]).filter (· ≠ []) =
      (Text.splitOn '/' path).filter (· ≠ []) := by
    rw [List.filter_append]
    have last : [(above path).2].filter (· ≠ []) = Path.names (above path).2 := by
      rw [Path.names, Text.splitOn_of_notMem absent]
    rw [last]
    exact names.symm
  obtain ⟨mid, first, stops, one, second, rfl, -⟩ :=
    (leads.of_filter_eq found pieces).exists_of_append rooted (start_isDirectory rooted path)
      (List.cons_ne_nil _ _)
  rw [isDirectory_iff, at?_eq_some_iff]
  refine ⟨mid, locate_eq_ok_iff.2 ⟨isTaken_above taken nonempty, first, by omega, ?_⟩, stops⟩
  rw [start_eq_of_isPrefix (prefix_above path) nonempty]
  exact one

/-! ## Making one directory -/

/-- The pieces of a path without the empty ones at its end. -/
def trimmed (path : Text) : List Text :=
  ((Text.splitOn '/' path).reverse.dropWhile (· = [])).reverse

theorem filter_trimmed (path : Text) :
    (trimmed path).filter (· ≠ []) = (Text.splitOn '/' path).filter (· ≠ []) := by
  have whole : (Text.splitOn '/' path).reverse.takeWhile (· = []) ++
      (Text.splitOn '/' path).reverse.dropWhile (· = []) = (Text.splitOn '/' path).reverse :=
    List.takeWhile_append_dropWhile
  have dropped : ((Text.splitOn '/' path).reverse.takeWhile (· = [])).filter (· ≠ []) = [] :=
    List.filter_eq_nil_iff.2 fun piece mem => by simpa using List.mem_takeWhile_imp mem
  have kept := congrArg (List.filter (· ≠ []) ∘ List.reverse) whole
  simp only [Function.comp_apply, List.reverse_append, List.filter_append, List.reverse_reverse,
    List.filter_reverse, dropped, List.reverse_nil, List.append_nil] at kept
  rw [trimmed, List.filter_reverse]
  exact kept

theorem getLast?_trimmed {name : Text} (last : (trimmed path).getLast? = some name) :
    name ≠ [] := by
  rw [trimmed, List.getLast?_reverse] at last
  have stopped := List.head?_dropWhile_not (fun piece : Text => decide (piece = []))
    (Text.splitOn '/' path).reverse
  simpa [last] using stopped

theorem filter_dropLast_trimmed {name : Text} (last : (trimmed path).getLast? = some name) :
    ((trimmed path).dropLast ++ [[]] ++ [name]).filter (· ≠ []) =
      (Text.splitOn '/' path).filter (· ≠ []) := by
  obtain ⟨lead, eq⟩ := List.getLast?_eq_some_iff.1 last
  rw [← filter_trimmed, eq, List.dropLast_concat]
  simp

theorem makeDirectory_eq (taken : IsTaken path) :
    tree.makeDirectory path =
      match (trimmed path).getLast? with
      | none => .error .occupied
      | some name =>
        match walk tree true maxLinks (tree.start path) ((trimmed path).dropLast ++ [[]]) with
        | .error errno => .error errno
        | .ok parent =>
          if name = ['.'] ∨ name = ['.', '.'] then .error .occupied
          else if maxName < Text.byteLength name then .error .nameTooLong
          else if (tree.find? (parent ++ [name])).isSome then .error .occupied
          else
            match tree.seal? parent with
            | some found => .error found.errno
            | none => .ok (tree.insert (parent ++ [name]) .directory) := by
  rw [makeDirectory, if_neg taken.ne_nil, if_neg taken.notMem_nul,
    if_neg (Nat.not_lt.2 taken.byteLength_le)]
  rfl

theorem isTaken_of_makeDirectory (made : tree.makeDirectory path = .ok after) : IsTaken path := by
  rw [makeDirectory] at made
  split at made
  · cases made
  · next nonempty =>
    split at made
    · cases made
    · next noNul =>
      split at made
      · cases made
      · next fits => exact ⟨nonempty, noNul, Nat.not_lt.1 fits⟩

theorem walkUsing_ne_nulInPath {last : Bool} {again : Place → List Text → Except Errno Place}
    (onward : ∀ dir pieces, again dir pieces ≠ .error .nulInPath) (dir : Place)
    (pieces : List Text) : walkUsing tree last again dir pieces ≠ .error .nulInPath := by
  fun_induction walkUsing tree last again dir pieces with
  | case2 _ _ _ _ onward => exact onward
  | case3 _ _ _ onward => exact onward
  | case6 _ _ _ _ _ _ _ _ onward => exact onward
  | case10 => exact onward _ _
  | _ => exact nofun

theorem walk_ne_nulInPath {last : Bool} (links : Nat) (dir : Place) (pieces : List Text) :
    walk tree last links dir pieces ≠ .error .nulInPath := by
  induction links generalizing dir pieces with
  | zero => exact walkUsing_ne_nulInPath (fun _ _ refused => by cases refused) dir pieces
  | succ links ih => exact walkUsing_ne_nulInPath ih dir pieces

/-- Only a path that holds a NUL is refused for one. -/
theorem makeDirectory_ne_nulInPath (noNul : '\x00' ∉ path) :
    tree.makeDirectory path ≠ .error .nulInPath := by
  rw [makeDirectory, if_neg noNul]
  split
  · exact nofun
  · split
    · exact nofun
    · simp only
      split
      · exact nofun
      · split
        · next errno refused =>
          rintro ⟨⟩
          exact walk_ne_nulInPath _ _ _ refused
        · split
          · exact nofun
          · split
            · exact nofun
            · split
              · exact nofun
              · split
                · next found _ =>
                  exact fun same => found.errno_ne_nulInPath (Except.error.inj same)
                · exact nofun

/-- A path that ends in a slash leads to a directory or nowhere. -/
theorem exists_leads_of_walk_slash (rooted : tree.IsRooted) {dir parent : Place}
    (start : tree.find? dir = some .directory) {links : Nat} {pieces : List Text}
    (walked : walk tree true links dir (pieces ++ [[]]) = .ok parent) :
    tree.find? parent = some .directory ∧
      ∃ followed ≤ links, Leads tree followed dir (pieces ++ [[]]) parent := by
  obtain ⟨followed, few, leads⟩ := walk_eq_ok_iff.1 walked
  obtain ⟨mid, _, stops, _, _, _, last⟩ :=
    leads.exists_of_append rooted start (List.cons_ne_nil _ _)
  refine ⟨?_, followed, few, leads⟩
  cases last with
  | here _ arrived =>
    cases arrived
    exact stops
  | down name => exact absurd rfl name.ne_nil
  | file name => exact absurd rfl name.ne_nil
  | link name => exact absurd rfl name.ne_nil

/-- Making a directory adds one in a directory that is not sealed, where nothing stood before, and
the path leads to it. -/
theorem exists_of_makeDirectory (rooted : tree.IsRooted)
    (made : tree.makeDirectory path = .ok after) :
    ∃ parent name, tree.find? parent = some .directory ∧ tree.seal? parent = none ∧
      tree.find? (parent ++ [name]) = none ∧
      after = tree.insert (parent ++ [name]) .directory ∧ after.isDirectory path = true := by
  have taken := isTaken_of_makeDirectory made
  rw [makeDirectory_eq taken] at made
  split at made
  · cases made
  · next name last =>
    split at made
    · cases made
    · next parent walked =>
      split at made
      · cases made
      · next visible =>
        split at made
        · cases made
        · next fits =>
          split at made
          · cases made
          · next free =>
            split at made
            · cases made
            · next writable =>
              obtain rfl := Except.ok.inj made
              rw [Bool.not_eq_true, Option.isSome_eq_false_iff, Option.isNone_iff_eq_none] at free
              rw [not_or] at visible
              have isName : IsEntryName name :=
                ⟨getLast?_trimmed last, visible.1, visible.2, Nat.not_lt.1 fits⟩
              obtain ⟨stops, links, few, leads⟩ :=
                exists_leads_of_walk_slash rooted (start_isDirectory rooted path) walked
              have keeps := Keeps.insert tree free .directory
              have added : (tree.insert (parent ++ [name]) .directory).find? (parent ++ [name])
                  = some .directory := find?_insert_self free
              -- In the new tree the way to the parent goes on to the new directory.
              have whole := (keeps.ways.leads leads).append (keeps.kept _ _ stops)
                (.down isName added .arrived)
              refine ⟨parent, name, stops, writable, free, rfl,
                isDirectory_iff.2 (at?_eq_some_iff.2 ?_)⟩
              refine ⟨_, locate_eq_ok_iff.2 ⟨taken, links, few, ?_⟩, added⟩
              exact whole.of_filter_eq added (filter_dropLast_trimmed last).symm

theorem makeDirectory_of_isDirectory (rooted : tree.IsRooted)
    (standing : tree.isDirectory path = true) : ∃ errno, tree.makeDirectory path = .error errno := by
  obtain ⟨place, located, found⟩ := at?_eq_some_iff.1 (isDirectory_iff.1 standing)
  obtain ⟨taken, links, few, leads⟩ := locate_eq_ok_iff.1 located
  rw [makeDirectory_eq taken]
  split
  · exact ⟨_, rfl⟩
  · next name last =>
    -- The path leads on from what is above its last name, so that something stands there.
    obtain ⟨mid, first, -, one, second, rfl, two⟩ :=
      (leads.of_filter_eq found (filter_dropLast_trimmed last)).exists_of_append rooted
        (start_isDirectory rooted path) (List.cons_ne_nil _ _)
    rw [one.walk_eq_ok (by omega)]
    simp only
    split
    · exact ⟨_, rfl⟩
    · split
      · exact ⟨_, rfl⟩
      · next visible long =>
        rw [not_or] at visible
        have standing : (tree.find? (mid ++ [name])).isSome = true := by
          cases two with
          | here skipped =>
            exact absurd (skipped.resolve_left (getLast?_trimmed last)) visible.1
          | up => exact absurd rfl visible.2
          | down _ found => rw [found]; rfl
          | file _ found => rw [found]; rfl
          | link _ found => rw [found]; rfl
        rw [if_pos standing]
        exact ⟨_, rfl⟩

/-! ## Trees with more directories -/

/-- A tree in which directories may have been added, none of them in a sealed one, and nothing else
is different. -/
structure AddsDirectories (tree after : FileTree) : Prop extends Keeps tree after where
  added : ∀ place node, after.find? place = some node →
    tree.find? place = some node ∨ node = .directory ∧ tree.seal? place.dropLast = none

namespace AddsDirectories

variable {between : FileTree}

theorem refl (tree : FileTree) : AddsDirectories tree tree :=
  ⟨.refl tree, fun _ _ => .inl⟩

theorem trans (first : AddsDirectories tree between) (second : AddsDirectories between after) :
    AddsDirectories tree after := by
  refine ⟨first.toKeeps.trans second.toKeeps, fun place node found => ?_⟩
  rcases second.added place node found with old | ⟨directory, writable⟩
  · exact first.added place node old
  · rw [seal?, first.seals] at writable
    exact .inr ⟨directory, writable⟩

theorem insert (tree : FileTree) {place : Place} (free : tree.find? place = none)
    (writable : tree.seal? place.dropLast = none) :
    AddsDirectories tree (tree.insert place .directory) := by
  refine ⟨.insert tree free .directory, fun other node found => ?_⟩
  by_cases same : other = place
  · subst same
    rw [find?_insert_self free] at found
    exact .inr ⟨(Option.some.inj found).symm, writable⟩
  · rw [find?_insert_of_ne same] at found
    exact .inl found

end AddsDirectories

theorem IsRooted.insert (rooted : tree.IsRooted) {parent : Place} {name : Text}
    (stops : tree.find? parent = some .directory) (free : tree.find? (parent ++ [name]) = none) :
    (tree.insert (parent ++ [name]) .directory).IsRooted := by
  have keeps := Keeps.insert tree free .directory
  refine ⟨fun place other node found => ?_, keeps.kept _ _ rooted.working⟩
  by_cases same : place ++ [other] = parent ++ [name]
  · obtain ⟨rfl, -⟩ := List.append_inj' same rfl
    exact keeps.kept _ _ stops
  · rw [find?_insert_of_ne same] at found
    exact keeps.kept _ _ (rooted.parent _ _ _ found)

/-- A tree is rooted if what its entries stand in are directories. -/
theorem isRooted_of_entries
    (inside : ∀ entry ∈ tree.entries, tree.find? entry.1.dropLast = some .directory)
    (working : tree.find? tree.working = some .directory) : tree.IsRooted := by
  refine ⟨fun place name node found => ?_, working⟩
  rw [find?, if_neg (List.append_ne_nil_of_right_ne_nil _ (List.cons_ne_nil _ _)),
    Option.map_eq_some_iff] at found
  obtain ⟨entry, first, -⟩ := found
  have same := List.find?_some first
  have parent := inside entry (List.mem_of_find?_eq_some first)
  rwa [of_decide_eq_true same, List.dropLast_concat] at parent

/-! ## Making all directories of a path -/

/-- The directory above the last name of a path is named in it, and is not there. -/
structure IsMissingAbove (tree : FileTree) (path : Text) : Prop where
  head : (above path).1 ≠ []
  tail : (above path).2 ≠ []
  unreached : tree.reaches (above path).1 = false

/-- The last step: the directory of the path itself, which may be there already. -/
def makeLast (tree : FileTree) (path : Text) : Made :=
  match tree.makeDirectory path with
  | .ok after => (none, after)
  | .error errno => if tree.isDirectory path then (none, tree) else (some errno, tree)

/-- How the directories of a path are made in a tree, and what that comes to. -/
inductive Makes (tree : FileTree) : Text → Made → Prop where
  /-- All above the last name is there. -/
  | direct {path : Text} : ¬IsMissingAbove tree path → Makes tree path (makeLast tree path)
  | refusedAbove {path : Text} {errno : Errno} {between : FileTree} :
    IsMissingAbove tree path → Makes tree (above path).1 (some errno, between) →
      errno ≠ .occupied → Makes tree path (some errno, between)
  /-- A path that ends in `.` is done with what is above. -/
  | here {path : Text} {refusal : Option Errno} {between : FileTree} :
    IsMissingAbove tree path → Makes tree (above path).1 (refusal, between) →
      refusal = none ∨ refusal = some .occupied → (above path).2 = ['.'] →
      Makes tree path (none, between)
  | andAbove {path : Text} {refusal : Option Errno} {between : FileTree} :
    IsMissingAbove tree path → Makes tree (above path).1 (refusal, between) →
      refusal = none ∨ refusal = some .occupied → Makes tree path (makeLast between path)

theorem isMissingAbove_iff :
    IsMissingAbove tree path ↔
      (above path).1 ≠ [] ∧ (above path).2 ≠ [] ∧ (!tree.reaches (above path).1) = true := by
  rw [Bool.not_eq_true']
  exact ⟨fun missing => ⟨missing.head, missing.tail, missing.unreached⟩,
    fun ⟨head, tail, unreached⟩ => ⟨head, tail, unreached⟩⟩

theorem makeDirectoriesWithin_of_present (present : ¬IsMissingAbove tree path) (depth : Nat) :
    tree.makeDirectoriesWithin (depth + 1) path = makeLast tree path := by
  rw [isMissingAbove_iff] at present
  simp only [makeDirectoriesWithin, present, false_and, if_false]
  rfl

theorem makeDirectoriesWithin_of_missing (missing : IsMissingAbove tree path) (depth : Nat) :
    tree.makeDirectoriesWithin (depth + 1) path =
      let higher := tree.makeDirectoriesWithin depth (above path).1
      if higher.1.isSome ∧ higher.1 ≠ some .occupied then higher
      else if (above path).2 = ['.'] then (none, higher.2)
      else makeLast higher.2 path := by
  rw [isMissingAbove_iff] at missing
  simp only [makeDirectoriesWithin, missing, ne_eq, not_false_eq_true, and_self, if_true, true_and]
  rfl

theorem makes_makeDirectoriesWithin {depth : Nat} (deep : path.length < depth) :
    Makes tree path (tree.makeDirectoriesWithin depth path) := by
  -- Each directory above has a shorter path, so that there is always depth left for it.
  induction depth generalizing path with
  | zero => exact absurd deep (Nat.not_lt_zero _)
  | succ depth ih =>
    by_cases missing : IsMissingAbove tree path
    · have shorter := length_above_lt missing.tail
      have inner : Makes tree (above path).1 (tree.makeDirectoriesWithin depth (above path).1) :=
        ih (by omega)
      rw [makeDirectoriesWithin_of_missing missing]
      generalize tree.makeDirectoriesWithin depth (above path).1 = higher at inner
      obtain ⟨refusal, between⟩ := higher
      simp only
      split
      · next refused =>
        obtain ⟨errno, rfl⟩ := Option.isSome_iff_exists.1 refused.1
        exact .refusedAbove missing inner fun same => refused.2 (congrArg some same)
      · next passed =>
        have passed : refusal = none ∨ refusal = some .occupied := by
          rw [not_and, not_not] at passed
          cases refusal with
          | none => exact .inl rfl
          | some errno => exact .inr (passed rfl)
        split
        · next last => exact .here missing inner passed last
        · exact .andAbove missing inner passed
    · rw [makeDirectoriesWithin_of_present missing]
      exact .direct missing

theorem makes_makeDirectories (tree : FileTree) (path : Text) :
    Makes tree path (tree.makeDirectories path) :=
  makes_makeDirectoriesWithin (Nat.lt_succ_self _)

/-- The last step adds at most one directory, and the path leads to it unless it is refused. -/
theorem makeLast_cases (rooted : tree.IsRooted) (path : Text) :
    AddsDirectories tree (makeLast tree path).2 ∧ (makeLast tree path).2.IsRooted ∧
      ((makeLast tree path).1 = none → (makeLast tree path).2.isDirectory path = true) := by
  rw [makeLast]
  split
  · next after made =>
    obtain ⟨parent, name, stops, writable, free, rfl, standing⟩ :=
      exists_of_makeDirectory rooted made
    have unsealed : tree.seal? (parent ++ [name]).dropLast = none := by
      rw [List.dropLast_concat, writable]
    exact ⟨.insert tree free unsealed, rooted.insert stops free, fun _ => standing⟩
  · split
    · next standing => exact ⟨.refl tree, rooted, fun _ => standing⟩
    · exact ⟨.refl tree, rooted, nofun⟩

namespace Makes

variable {made : Made}

/-- Whatever comes of it, making directories adds directories only. -/
theorem adds (rooted : tree.IsRooted) (makes : Makes tree path made) :
    AddsDirectories tree made.2 ∧ made.2.IsRooted := by
  induction makes with
  | direct => exact ⟨(makeLast_cases rooted _).1, (makeLast_cases rooted _).2.1⟩
  | refusedAbove _ _ _ ih => exact ih
  | here _ _ _ _ ih => exact ih
  | andAbove _ _ _ ih =>
    obtain ⟨added, between⟩ := ih
    obtain ⟨last, rooted, -⟩ := makeLast_cases between _
    exact ⟨added.trans last, rooted⟩

/-- Where nothing is refused the path leads to a directory, unless it ends in `.`. -/
theorem isDirectory (rooted : tree.IsRooted) (makes : Makes tree path (none, after)) :
    after.isDirectory path = true ∨ (above path).2 = ['.'] := by
  generalize outcome : ((none, after) : Made) = made at makes
  cases makes with
  | direct =>
    have last := (makeLast_cases rooted path).2.2
    rw [← outcome] at last
    exact .inl (last rfl)
  | refusedAbove => cases outcome
  | here _ _ _ last => exact .inr last
  | andAbove _ inner _ =>
    have last := (makeLast_cases (inner.adds rooted).2 path).2.2
    rw [← outcome] at last
    exact .inl (last rfl)

theorem ne_nulInPath (noNul : '\x00' ∉ path) (makes : Makes tree path made) :
    made.1 ≠ some .nulInPath := by
  have last (tree : FileTree) {path : Text} (noNul : '\x00' ∉ path) :
      (makeLast tree path).1 ≠ some .nulInPath := by
    rw [makeLast]
    split
    · exact nofun
    · next errno refused =>
      split
      · exact nofun
      · rintro ⟨⟩
        exact makeDirectory_ne_nulInPath noNul refused
  induction makes with
  | direct => exact last tree noNul
  | refusedAbove _ _ _ ih => exact ih fun mem => noNul ((prefix_above _).subset mem)
  | here => exact nofun
  | andAbove => exact last _ noNul

end Makes

end SyncedFile.FileTree
