import SyncedFile.FileTree.Editing
import SyncedFile.Proofs.FileTree.Walks
import SyncedFile.Proofs.Path.Split

/-!
# Writing to the end of files

Once a path has been opened for writing it leads to the file that was opened, through the same links,
and what is written there later comes after what stood there.

* `Files` — a tree in which a file has been put;
* `Files.ways`, `Files.walk_ne_tooManyLinks` — walks in such a tree;
* `locate_of_placeForWithin` — a path leads to the file that was created for it;
* `read?_append` — what a path holds after text was written at its end;
* `exists_read?_of_append` — what it holds once it could be opened.
-/

namespace SyncedFile.FileTree

variable {tree after : FileTree} {links followed : Nat} {dir mid place other : Place}
  {pieces rest front : List Text} {piece path head name target content before more : Text}

/-! ## Putting a file -/

/-- The second tree is the first one with a file at a place where nothing or a file stood. -/
structure Files (tree after : FileTree) (place : Place) (content : Text) : Prop where
  working : after.working = tree.working
  placed : after.find? place = some (.file content)
  others : ∀ other, other ≠ place → after.find? other = tree.find? other
  free : tree.find? place = none ∨ ∃ before, tree.find? place = some (.file before)

theorem files_insert (free : tree.find? place = none) (content : Text) :
    Files tree (tree.insert place (.file content)) place content where
  working := rfl
  placed := find?_insert_self free
  others _ ne := find?_insert_of_ne ne
  free := .inl free

theorem files_write (found : tree.find? place = some (.file before)) (content : Text) :
    Files tree (tree.write place content) place content := by
  have below : place ≠ [] := by
    rintro rfl
    cases found
  have entry (other : Place) : (tree.write place content).entries.find? (·.1 = other) =
      (tree.entries.find? (·.1 = other)).map fun entry =>
        if entry.1 = place then (place, .file content) else entry := by
    rw [write, List.find?_map]
    congr 2
    funext entry
    by_cases here : entry.1 = place <;> simp [here]
  refine ⟨rfl, ?_, fun other ne => ?_, .inr ⟨before, found⟩⟩
  · rw [find?, if_neg below] at found ⊢
    obtain ⟨standing, here, -⟩ := Option.map_eq_some_iff.1 found
    have named : standing.1 = place := by simpa using List.find?_some here
    rw [entry, here]
    simp [named]
  · rw [find?, find?, entry]
    split
    · rfl
    · cases here : tree.entries.find? (·.1 = other) with
      | none => rfl
      | some standing =>
        have named : standing.1 = other := by simpa using List.find?_some here
        simp [named, ne]

namespace Files

theorem start (files : Files tree after place content) (path : Text) :
    after.start path = tree.start path := by
  rw [FileTree.start, FileTree.start, files.working]

theorem ways (files : Files tree after place content) : KeepsWays tree after := by
  have elsewhere {other : Place} {node : Node} (found : tree.find? other = some node)
      (noFile : ∀ content, node ≠ .file content) : after.find? other = some node := by
    by_cases here : other = place
    · subst here
      rcases files.free with free | ⟨before, free⟩
      · rw [free] at found
        cases found
      · rw [free] at found
        exact absurd (Option.some.inj found).symm (noFile before)
    · rw [files.others other here, found]
  refine ⟨fun other found => elsewhere found nofun, fun other before found => ?_,
    fun other target found => elsewhere found nofun⟩
  by_cases here : other = place
  · exact ⟨content, here ▸ files.placed⟩
  · exact ⟨before, by rw [files.others other here, found]⟩

/-- A walk follows no more links after a file has been put: where it used to end it may at most find
that file. -/
theorem walkUsing_ne_tooManyLinks (files : Files tree after place content)
    {again againAfter : Place → List Text → Except Errno Place}
    (onward : ∀ dir pieces, again dir pieces ≠ .error .tooManyLinks →
      againAfter dir pieces ≠ .error .tooManyLinks)
    (few : walkUsing tree true again dir pieces ≠ .error .tooManyLinks) :
    walkUsing after true againAfter dir pieces ≠ .error .tooManyLinks := by
  induction pieces generalizing dir with
  | nil => exact nofun
  | cons piece rest ih =>
    rcases piece_cases piece with skipped | rfl | name | ⟨visible, notAbove, long⟩
    · rw [walkUsing_cons_of_here skipped] at few ⊢
      exact ih few
    · rw [walkUsing_cons_up] at few ⊢
      exact ih few
    · rw [walkUsing_cons_of_name name] at few ⊢
      cases found : tree.find? (dir ++ [piece]) with
      | none =>
        by_cases here : dir ++ [piece] = place
        · rw [here, files.placed]
          simp only
          split <;> exact nofun
        · rw [files.others _ here, found]
          exact nofun
      | some node =>
        rw [found] at few
        cases node with
        | directory =>
          rw [files.ways.directory _ found]
          exact ih few
        | file content =>
          obtain ⟨now, found⟩ := files.ways.file _ _ found
          rw [found]
          simp only
          split <;> exact nofun
        | link target =>
          rw [files.ways.link _ _ found]
          exact onward _ _ few
    · rw [walkUsing_cons_of_long long visible notAbove]
      exact nofun

theorem walk_ne_tooManyLinks (files : Files tree after place content)
    (few : walk tree true links dir pieces ≠ .error .tooManyLinks) :
    walk after true links dir pieces ≠ .error .tooManyLinks := by
  induction links generalizing dir pieces with
  | zero => exact files.walkUsing_ne_tooManyLinks (fun _ _ => id) few
  | succ links ih => exact files.walkUsing_ne_tooManyLinks (fun _ _ => ih) few

end Files

/-! ## Walks that go on -/

namespace Leads

/-- Past the pieces that lead to a directory a walk goes on from there. -/
theorem walk_append (leads : Leads tree followed dir pieces mid)
    (stops : tree.find? mid = some .directory) (enough : followed ≤ links) :
    walk tree true links dir (pieces ++ rest) = walk tree true (links - followed) mid rest := by
  induction leads generalizing links with
  | arrived => rfl
  | here skipped _ ih =>
    rw [List.cons_append, walk_congr fun again => walkUsing_cons_of_here skipped]
    exact ih stops enough
  | up _ ih =>
    rw [List.cons_append, walk_congr fun again => walkUsing_cons_up]
    exact ih stops enough
  | @down _ dir _ piece others name found _ ih =>
    have same again : walkUsing tree true again dir (piece :: (others ++ rest)) =
        walkUsing tree true again (dir ++ [piece]) (others ++ rest) := by
      rw [walkUsing_cons_of_name name, found]
    rw [List.cons_append, walk_congr same]
    exact ih stops enough
  | file name found =>
    rw [found] at stops
    cases stops
  | @link followed dir _ piece target others name found _ ih =>
    cases links with
    | zero => cases enough
    | succ links =>
      have onward := ih stops (Nat.le_of_succ_le_succ enough)
      rw [List.append_assoc] at onward
      rw [List.cons_append, walk, walkUsing_cons_of_name name, found, Nat.succ_sub_succ]
      exact onward

theorem exists_rest (whole : Leads tree links dir (pieces ++ rest) place)
    (leads : Leads tree followed dir pieces mid) (stops : tree.find? mid = some .directory) :
    ∃ left, Leads tree left mid rest place := by
  have arrives := whole.walk_eq_ok (Nat.le_max_left links followed)
  rw [leads.walk_append stops (Nat.le_max_right links followed)] at arrives
  obtain ⟨left, -, leads⟩ := exists_leads_of_walk arrives
  exact ⟨left, leads⟩

end Leads

/-! ## Heads of paths -/

theorem exists_front (path : Text) :
    ∃ front, Text.splitOn '/' path = front ++ [(Path.split path).2] ∧
      front.filter (· ≠ []) = Path.names (Path.split path).1 ∧
      ((Path.split path).1 = [] → Path.isAbsolute path = false) := by
  obtain ⟨slashes, whole, absent, names⟩ := Path.exists_split path
  rcases Text.cutLast_cases '/' path with ⟨plain, cut⟩ | ⟨before, last, eq, noSlash, cut⟩
  · have parts : Path.split path = ([], path) := by rw [Path.split, cut]
    rw [parts]
    exact ⟨[], Text.splitOn_of_notMem plain, rfl, fun _ => Path.isAbsolute_eq_false plain⟩
  · have tail : (Path.split path).2 = last := by rw [Path.split, cut]
    have pieces : Text.splitOn '/' path = Text.splitOn '/' before ++ [last] := by
      rw [eq, Text.splitOn_append_sep, Text.splitOn_of_notMem noSlash]
    refine ⟨Text.splitOn '/' before, by rw [tail, pieces], ?_, fun empty => ?_⟩
    · have sides : (Text.splitOn '/' before).filter (· ≠ []) ++ [last].filter (· ≠ []) =
          Path.names (Path.split path).1 ++ [last].filter (· ≠ []) := by
        rw [← List.filter_append, ← pieces]
        rw [tail] at names
        rw [Path.names, Path.names, Path.names, Text.splitOn_of_notMem noSlash] at names
        exact names
      exact List.append_cancel_right sides
    · -- The head of a path with a slash is not empty.
      rw [Path.split, cut] at empty
      simp only at empty
      split at empty
      · exact absurd empty (by simp)
      · next bare => exact absurd (by rw [empty]; rfl) bare

/-- The path of the directory in which the last name of a path stands. -/
def headOf (path : Text) : Text :=
  if (Path.split path).1 = [] then ['.'] else (Path.split path).1

theorem start_split (nonempty : (Path.split path).1 ≠ []) :
    tree.start (Path.split path).1 = tree.start path := by
  obtain ⟨slashes, whole, -⟩ := Path.exists_split path
  rw [List.append_assoc] at whole
  exact start_eq_of_isPrefix ⟨_, whole.symm⟩ nonempty

theorem eq_of_leads_here (leads : Leads tree links dir [['.']] place) : place = dir := by
  cases leads with
  | here _ leads =>
    cases leads
    rfl
  | down name => exact absurd rfl name.ne_here
  | file name => exact absurd rfl name.ne_here
  | link name => exact absurd rfl name.ne_here

theorem exists_leads_front (located : tree.locate (headOf path) = .ok dir)
    (stops : tree.find? dir = some .directory)
    (same : front.filter (· ≠ []) = Path.names (Path.split path).1)
    (relative : (Path.split path).1 = [] → Path.isAbsolute path = false) :
    ∃ links ≤ maxLinks, Leads tree links (tree.start path) front dir := by
  obtain ⟨-, links, few, leads⟩ := locate_eq_ok_iff.1 located
  by_cases empty : (Path.split path).1 = []
  · rw [headOf, if_pos empty] at leads
    have working : tree.start path = tree.working := by
      rw [start, relative empty]
      rfl
    have arrived : dir = tree.working := eq_of_leads_here leads
    rw [working, ← arrived]
    rw [empty] at same
    exact ⟨0, Nat.zero_le _, Leads.arrived.of_filter_eq stops same⟩
  · rw [headOf, if_neg empty, start_split empty] at leads
    exact ⟨links, few, leads.of_filter_eq stops same⟩

/-! ## Opening -/

/-- Where opening a path comes to: what the path leads to, a free name in a directory, or what the
target of a link comes to. -/
theorem placeForWithin_cases (placed : placeForWithin links tree path = .ok place) :
    tree.locate path = .ok place ∨
      tree.locate path = .error .notFound ∧ (Path.split path).2 ≠ [] ∧
        ∃ dir, tree.locate (headOf path) = .ok dir ∧ tree.find? dir = some .directory ∧
          (tree.find? (dir ++ [(Path.split path).2]) = none ∧ place = dir ++ [(Path.split path).2] ∨
            ∃ fewer target, links = fewer + 1 ∧
              tree.find? (dir ++ [(Path.split path).2]) = some (.link target) ∧
              placeForWithin fewer tree (Path.join (Path.split path).1 target) = .ok place) := by
  rw [placeForWithin.eq_def] at placed
  split at placed
  · next found => exact .inl (found.trans placed)
  · next missing =>
    refine .inr ⟨missing, ?_⟩
    simp only at placed
    split at placed
    · cases placed
    · next named =>
      refine ⟨named, ?_⟩
      split at placed
      · cases placed
      · next dir located =>
        split at placed
        · cases placed
        · next stops =>
          refine ⟨dir, located, Decidable.not_not.1 stops, ?_⟩
          split at placed
          · next free => exact .inl ⟨free, (Except.ok.inj placed).symm⟩
          · next fewer target found => exact .inr ⟨fewer, target, rfl, found, placed⟩
          · cases placed
  · cases placed

theorem isTaken_of_notFound (missing : tree.locate path = .error .notFound) (nonempty : path ≠ []) :
    IsTaken path ∧
      walk tree true maxLinks (tree.start path) (Text.splitOn '/' path) = .error .notFound := by
  rw [locate, locateUsing, if_neg nonempty] at missing
  split at missing
  · cases missing
  · next noNul =>
    split at missing
    · cases missing
    · next fits => exact ⟨⟨nonempty, noNul, Nat.not_lt.1 fits⟩, missing⟩

theorem exists_join (relative : Path.isAbsolute target = false) (head : Text) :
    ∃ front, Text.splitOn '/' (Path.join head target) = front ++ Text.splitOn '/' target ∧
      front.filter (· ≠ []) = Path.names head ∧ head <+: Path.join head target := by
  rw [Path.join, relative, if_neg Bool.false_ne_true]
  by_cases empty : head = []
  · subst empty
    exact ⟨[], rfl, rfl, List.nil_prefix⟩
  · have notEmpty : head.isEmpty = false := by simpa using empty
    rw [notEmpty, Bool.false_or]
    split
    · next slash =>
      obtain ⟨before, rfl⟩ := List.getLast?_eq_some_iff.1 (by simpa using slash)
      refine ⟨Text.splitOn '/' before, ?_, ?_, List.prefix_append _ _⟩
      · rw [List.append_assoc, List.singleton_append, Text.splitOn_append_sep]
      · rw [Path.names, Text.splitOn_append_sep, List.filter_append]
        simp [Text.splitOn]
    · exact ⟨Text.splitOn '/' head, Text.splitOn_append_sep '/' head target, rfl,
        List.prefix_append _ _⟩

/-- The target of a link leads on from the directory in which the link stands. -/
theorem exists_leads_target (located : tree.locate (Path.join (Path.split path).1 target) = .ok place)
    (front : Leads tree links (tree.start path) pieces dir)
    (stops : tree.find? dir = some .directory)
    (same : pieces.filter (· ≠ []) = Path.names (Path.split path).1)
    (relative : (Path.split path).1 = [] → Path.isAbsolute path = false) :
    ∃ left, Leads tree left (linkStart dir target) (Text.splitOn '/' target) place := by
  obtain ⟨-, whole, -, leads⟩ := locate_eq_ok_iff.1 located
  cases top : Path.isAbsolute target with
  | true =>
    have joined : Path.join (Path.split path).1 target = target := by
      rw [Path.join, if_pos top]
    rw [joined, start, if_pos top] at leads
    rw [linkStart, if_pos top]
    exact ⟨whole, leads⟩
  | false =>
    obtain ⟨others, pieces, filtered, lead⟩ := exists_join top (Path.split path).1
    have begins : tree.start (Path.join (Path.split path).1 target) = tree.start path := by
      by_cases empty : (Path.split path).1 = []
      · have bare : Path.join [] target = target := by
          rw [Path.join, top]
          rfl
        rw [empty, bare, start, start, top, relative empty]
      · rw [← start_eq_of_isPrefix lead empty, start_split empty]
    rw [pieces, begins] at leads
    rw [linkStart, top]
    exact leads.exists_rest (front.of_filter_eq stops (filtered.trans same.symm)) stops

theorem isEntryName_of_walk (missing : walk tree true links dir [piece] = .error .notFound) :
    IsEntryName piece := by
  rcases piece_cases piece with skipped | rfl | name | ⟨visible, notAbove, long⟩
  · rw [walk_congr fun again => walkUsing_cons_of_here skipped] at missing
    cases links <;> cases missing
  · rw [walk_congr fun again => walkUsing_cons_up] at missing
    cases links <;> cases missing
  · exact name
  · cases links <;> rw [walk, walkUsing_cons_of_long long visible notAbove] at missing <;>
      cases missing

theorem locate_of_placeForWithin (files : Files tree after place content)
    (placed : placeForWithin links tree path = .ok place) : after.locate path = .ok place := by
  -- The induction is on the links that may be resolved: the path that a link stands for is found
  -- with one fewer.
  induction links using Nat.strongRecOn generalizing path with
  | _ links ih =>
    rcases placeForWithin_cases placed with found | ⟨missing, named, dir, located, stops, ends⟩
    · obtain ⟨taken, followed, few, leads⟩ := locate_eq_ok_iff.1 found
      refine locate_eq_ok_iff.2 ⟨taken, followed, few, ?_⟩
      rw [files.start]
      exact files.ways.leads leads
    · have nonempty : path ≠ [] := by
        rintro rfl
        exact named rfl
      obtain ⟨taken, walked⟩ := isTaken_of_notFound missing nonempty
      obtain ⟨front, pieces, same, relative⟩ := exists_front path
      obtain ⟨followed, few, leads⟩ := exists_leads_front located stops same relative
      have afterwards := files.ways.leads leads
      have isName : IsEntryName (Path.split path).2 := by
        rw [pieces, leads.walk_append stops few] at walked
        exact isEntryName_of_walk walked
      rcases ends with ⟨free, rfl⟩ | ⟨fewer, target, rfl, found, onward⟩
      · refine locate_eq_ok_iff.2 ⟨taken, followed + 0, few, ?_⟩
        rw [files.start, pieces]
        exact afterwards.append (files.ways.directory _ stops) (.file isName files.placed)
      · obtain ⟨left, target⟩ := exists_leads_target (ih fewer (Nat.lt_succ_self _) onward)
          (files.start path ▸ afterwards) (files.ways.directory _ stops) same relative
        have whole := afterwards.append (files.ways.directory _ stops)
          (.link isName (files.ways.link _ _ found) (by rw [List.append_nil]; exact target))
        -- How many links the way through the target follows is not known. But without the file the
        -- walk ended below the limit, and with it the walk follows no more links.
        have bounded : walk after true maxLinks (after.start path) (Text.splitOn '/' path) ≠
            .error .tooManyLinks := by
          rw [files.start]
          exact files.walk_ne_tooManyLinks (by rw [walked]; exact nofun)
        rw [locate, locateUsing, if_neg taken.ne_nil, if_neg taken.notMem_nul,
          if_neg (Nat.not_lt.2 taken.byteLength_le)]
        rw [pieces, files.start] at bounded ⊢
        rw [whole.walk_eq] at bounded ⊢
        split at bounded
        · next enough => rw [if_pos enough]
        · exact absurd rfl bounded

/-! ## Writing at the end -/

theorem read?_eq_some_iff : tree.read? path = some content ↔ tree.at? path = some (.file content) := by
  rw [read?]
  rcases tree.at? path with _ | _ | now | target <;> simp

/-- What putting text at the end of a path does: the file that opening the path comes to holds more. -/
theorem exists_files_of_append (written : tree.append path more = .ok after) :
    ∃ place before, tree.placeFor path = .ok place ∧ Files tree after place (before ++ more) := by
  rw [append] at written
  split at written
  · cases written
  · next place placed =>
    split at written
    · next free =>
      split at written
      · cases written
      · obtain rfl := Except.ok.inj written
        exact ⟨place, [], placed, files_insert free more⟩
    · next before found =>
      obtain rfl := Except.ok.inj written
      exact ⟨place, before, placed, files_write found _⟩
    · cases written

theorem exists_read?_of_append (written : tree.append path [] = .ok after) :
    ∃ before, after.read? path = some before := by
  obtain ⟨place, before, placed, files⟩ := exists_files_of_append written
  refine ⟨before ++ [], read?_eq_some_iff.2 (at?_eq_some_iff.2 ⟨place, ?_, files.placed⟩)⟩
  exact locate_of_placeForWithin files placed

/-- Where a path leads to a file, text can be put at its end, and stands there after what stood
there before. -/
theorem read?_append (holds : tree.read? path = some before) (more : Text) :
    ∃ after, tree.append path more = .ok after ∧ after.read? path = some (before ++ more) := by
  obtain ⟨place, located, found⟩ := at?_eq_some_iff.1 (read?_eq_some_iff.1 holds)
  have placed : tree.placeFor path = .ok place := by
    rw [placeFor, placeForWithin.eq_def, located]
  refine ⟨tree.write place (before ++ more), by rw [append, placed]; simp only [found], ?_⟩
  have files := files_write found (before ++ more)
  exact read?_eq_some_iff.2 (at?_eq_some_iff.2
    ⟨place, locate_of_placeForWithin files placed, files.placed⟩)

end SyncedFile.FileTree
