import SyncedFile.FileTree.Walk
import SyncedFile.Proofs.Path.Names

/-!
# Where paths lead

A walk that arrives can be told step by step, with the number of links that it follows. Told so, it
can be cut at any piece, put together with another one, and repeated in a tree that has more in it.

* `IsRooted` — all that stands in a tree stands in directories;
* `Leads`, `walk_eq_ok_iff` — the steps of a walk that arrives;
* `Leads.append`, `Leads.exists_of_append` — walks one after the other;
* `Leads.of_filter_eq` — the empty pieces of a path that leads to a directory do not count;
* `Keeps`, `KeepsWays.leads` — the same walk in a tree that has more in it;
* `locate_eq_ok_iff`, `isDirectory_iff` — paths as text.
-/

namespace SyncedFile.FileTree

/-- All that stands in the tree stands in a directory, and relative paths start from one. -/
structure IsRooted (tree : FileTree) : Prop where
  parent : ∀ place name node, tree.find? (place ++ [name]) = some node →
    tree.find? place = some .directory
  working : tree.find? tree.working = some .directory

/-- A piece of a path that names what stands in a directory. -/
structure IsEntryName (piece : Text) : Prop where
  ne_nil : piece ≠ []
  ne_here : piece ≠ ['.']
  ne_above : piece ≠ ['.', '.']
  byteLength_le : Text.byteLength piece ≤ maxName

/-- The directory that the target of a link is seen from. -/
def linkStart (dir : Place) (target : Text) : Place :=
  if Path.isAbsolute target then [] else dir

/-- From a directory the pieces lead to a place, over so many links. -/
inductive Leads (tree : FileTree) : Nat → Place → List Text → Place → Prop where
  | arrived {dir : Place} : Leads tree 0 dir [] dir
  | here {links : Nat} {dir place : Place} {piece : Text} {rest : List Text} :
    piece = [] ∨ piece = ['.'] → Leads tree links dir rest place →
      Leads tree links dir (piece :: rest) place
  | up {links : Nat} {dir place : Place} {rest : List Text} :
    Leads tree links dir.dropLast rest place →
      Leads tree links dir (['.', '.'] :: rest) place
  | down {links : Nat} {dir place : Place} {piece : Text} {rest : List Text} :
    IsEntryName piece → tree.find? (dir ++ [piece]) = some .directory →
      Leads tree links (dir ++ [piece]) rest place → Leads tree links dir (piece :: rest) place
  | file {dir : Place} {piece content : Text} :
    IsEntryName piece → tree.find? (dir ++ [piece]) = some (.file content) →
      Leads tree 0 dir [piece] (dir ++ [piece])
  | link {links : Nat} {dir place : Place} {piece target : Text} {rest : List Text} :
    IsEntryName piece → tree.find? (dir ++ [piece]) = some (.link target) →
      Leads tree links (linkStart dir target) (Text.splitOn '/' target ++ rest) place →
      Leads tree (links + 1) dir (piece :: rest) place

variable {tree after : FileTree} {links more : Nat} {dir mid place : Place}
  {pieces rest : List Text} {piece path : Text}

namespace IsRooted

/-- Above a directory stands a directory. -/
theorem dropLast (rooted : tree.IsRooted) (start : tree.find? dir = some .directory) :
    tree.find? dir.dropLast = some .directory := by
  rcases List.eq_nil_or_concat dir with rfl | ⟨parent, name, rfl⟩
  · exact find?_nil tree
  · rw [List.concat_eq_append] at start ⊢
    rw [List.dropLast_concat]
    exact rooted.parent parent name .directory start

theorem linkStart (_ : tree.IsRooted) (start : tree.find? dir = some .directory) (target : Text) :
    tree.find? (linkStart dir target) = some .directory := by
  rw [FileTree.linkStart]
  split
  · exact find?_nil tree
  · exact start

end IsRooted

/-! ## Walks step by step -/

section Steps

variable {last : Bool} {again : Place → List Text → Except Errno Place}

theorem walkUsing_cons_of_here (skipped : piece = [] ∨ piece = ['.']) :
    walkUsing tree last again dir (piece :: rest) = walkUsing tree last again dir rest := by
  rw [walkUsing, if_pos skipped]

theorem walkUsing_cons_up :
    walkUsing tree last again dir (['.', '.'] :: rest) =
      walkUsing tree last again dir.dropLast rest := by
  rw [walkUsing, if_neg (by decide), if_pos rfl]

theorem walkUsing_cons_of_name (name : IsEntryName piece) :
    walkUsing tree true again dir (piece :: rest) =
      match tree.find? (dir ++ [piece]) with
      | none => .error .notFound
      | some .directory => walkUsing tree true again (dir ++ [piece]) rest
      | some (.file _) => if rest = [] then .ok (dir ++ [piece]) else .error .notDirectory
      | some (.link target) => again (linkStart dir target) (Text.splitOn '/' target ++ rest) := by
  rw [walkUsing, if_neg (not_or.2 ⟨name.ne_nil, name.ne_here⟩), if_neg name.ne_above,
    if_neg (Nat.not_lt.2 name.byteLength_le)]
  simp only [linkStart]
  rcases tree.find? (dir ++ [piece]) with _ | _ | content | target
  · rfl
  · rfl
  · rfl
  · exact if_neg (by simp)

theorem walkUsing_cons_of_long (long : maxName < Text.byteLength piece)
    (visible : ¬(piece = [] ∨ piece = ['.'])) (notAbove : piece ≠ ['.', '.']) :
    walkUsing tree last again dir (piece :: rest) = .error .nameTooLong := by
  rw [walkUsing, if_neg visible, if_neg notAbove, if_pos long]

theorem piece_cases (piece : Text) :
    (piece = [] ∨ piece = ['.']) ∨ piece = ['.', '.'] ∨ IsEntryName piece ∨
      (¬(piece = [] ∨ piece = ['.']) ∧ piece ≠ ['.', '.'] ∧ maxName < Text.byteLength piece) := by
  by_cases skipped : piece = [] ∨ piece = ['.']
  · exact .inl skipped
  · by_cases up : piece = ['.', '.']
    · exact .inr (.inl up)
    · rcases Nat.lt_or_ge maxName (Text.byteLength piece) with long | fits
      · exact .inr (.inr (.inr ⟨skipped, up, long⟩))
      · rw [not_or] at skipped
        exact .inr (.inr (.inl ⟨skipped.1, skipped.2, up, fits⟩))

theorem exists_leads_of_walkUsing (bound : Nat)
    (onward : ∀ dir pieces, again dir pieces = .ok place →
      ∃ links < bound, Leads tree links dir pieces place)
    (arrives : walkUsing tree true again dir pieces = .ok place) :
    ∃ links ≤ bound, Leads tree links dir pieces place := by
  induction pieces generalizing dir with
  | nil =>
    obtain rfl := Except.ok.inj arrives
    exact ⟨0, Nat.zero_le _, .arrived⟩
  | cons piece rest ih =>
    rcases piece_cases piece with skipped | rfl | name | ⟨visible, notAbove, long⟩
    · rw [walkUsing_cons_of_here skipped] at arrives
      obtain ⟨links, le, leads⟩ := ih arrives
      exact ⟨links, le, .here skipped leads⟩
    · rw [walkUsing_cons_up] at arrives
      obtain ⟨links, le, leads⟩ := ih arrives
      exact ⟨links, le, .up leads⟩
    · rw [walkUsing_cons_of_name name] at arrives
      split at arrives
      · cases arrives
      · next found =>
        obtain ⟨links, le, leads⟩ := ih arrives
        exact ⟨links, le, .down name found leads⟩
      · next content found =>
        split at arrives
        · next final =>
          obtain rfl := Except.ok.inj arrives
          subst final
          exact ⟨0, Nat.zero_le _, .file name found⟩
        · cases arrives
      · next target found =>
        obtain ⟨links, lt, leads⟩ := onward _ _ arrives
        exact ⟨links + 1, lt, .link name found leads⟩
    · rw [walkUsing_cons_of_long long visible notAbove] at arrives
      cases arrives

end Steps

theorem exists_leads_of_walk (arrives : walk tree true links dir pieces = .ok place) :
    ∃ followed ≤ links, Leads tree followed dir pieces place := by
  induction links generalizing dir pieces with
  | zero =>
    exact exists_leads_of_walkUsing 0 (fun _ _ refused => by cases refused) arrives
  | succ links ih =>
    refine exists_leads_of_walkUsing (links + 1) (fun dir pieces onward => ?_) arrives
    obtain ⟨followed, le, leads⟩ := ih onward
    exact ⟨followed, Nat.lt_succ_of_le le, leads⟩

/-- Only a link makes a walk call on the next one, so a step without a link leaves the number of
those that may follow. -/
theorem walk_congr (same : ∀ again, walkUsing tree true again dir pieces =
    walkUsing tree true again mid rest) :
    walk tree true links dir pieces = walk tree true links mid rest := by
  cases links <;> exact same _

/-- A walk arrives where the steps do if it may follow as many links, and else ends at the limit. -/
theorem Leads.walk_eq (leads : Leads tree links dir pieces place) (limit : Nat) :
    walk tree true limit dir pieces = if links ≤ limit then .ok place else .error .tooManyLinks := by
  induction leads generalizing limit with
  | arrived => cases limit <;> rfl
  | here skipped leads ih =>
    rw [walk_congr fun again => walkUsing_cons_of_here skipped]
    exact ih limit
  | up leads ih =>
    rw [walk_congr fun again => walkUsing_cons_up]
    exact ih limit
  | @down _ dir _ piece rest name found leads ih =>
    have same again : walkUsing tree true again dir (piece :: rest) =
        walkUsing tree true again (dir ++ [piece]) rest := by
      rw [walkUsing_cons_of_name name, found]
    rw [walk_congr same]
    exact ih limit
  | file name found =>
    cases limit <;> rw [walk, walkUsing_cons_of_name name, found] <;> rfl
  | link name found leads ih =>
    cases limit with
    | zero =>
      rw [walk, walkUsing_cons_of_name name, found]
      rfl
    | succ limit =>
      rw [walk, walkUsing_cons_of_name name, found]
      simp only [Nat.succ_le_succ_iff]
      exact ih limit

theorem Leads.walk_eq_ok (leads : Leads tree links dir pieces place) (enough : links ≤ more) :
    walk tree true more dir pieces = .ok place := by
  rw [leads.walk_eq, if_pos enough]

theorem walk_eq_ok_iff :
    walk tree true links dir pieces = .ok place ↔
      ∃ followed ≤ links, Leads tree followed dir pieces place :=
  ⟨exists_leads_of_walk, fun ⟨_, enough, leads⟩ => leads.walk_eq_ok enough⟩

/-! ## Cutting and joining -/

namespace Leads

/-- From where a walk has come to, another one can go on. -/
theorem append (first : Leads tree links dir pieces mid) (stops : tree.find? mid = some .directory)
    (next : Leads tree more mid rest place) :
    Leads tree (links + more) dir (pieces ++ rest) place := by
  induction first with
  | arrived => rwa [Nat.zero_add]
  | here skipped _ ih => exact .here skipped (ih stops next)
  | up _ ih => exact .up (ih stops next)
  | down name found _ ih => exact .down name found (ih stops next)
  | file name found =>
    rw [found] at stops
    cases stops
  | link name found _ ih =>
    have onward := ih stops next
    rw [List.append_assoc] at onward
    rw [Nat.add_right_comm]
    exact .link name found onward

/-- In a rooted tree a walk that goes on after some pieces has come to a directory there. -/
theorem exists_of_append (rooted : tree.IsRooted) (start : tree.find? dir = some .directory)
    (nonempty : rest ≠ []) (leads : Leads tree links dir (pieces ++ rest) place) :
    ∃ mid first, tree.find? mid = some .directory ∧ Leads tree first dir pieces mid ∧
      ∃ second, first + second = links ∧ Leads tree second mid rest place := by
  generalize whole : pieces ++ rest = all at leads
  -- At each step the cut is either here, with no piece before it, or later.
  induction leads generalizing pieces with
  | arrived => exact absurd (List.append_eq_nil_iff.1 whole).2 nonempty
  | here skipped leads ih =>
    rcases List.append_eq_cons_iff.1 whole with ⟨rfl, rfl⟩ | ⟨pieces, rfl, rfl⟩
    · exact ⟨_, 0, start, .arrived, _, Nat.zero_add _, .here skipped leads⟩
    · obtain ⟨mid, first, stops, one, second, sum, two⟩ := ih start rfl
      exact ⟨mid, first, stops, .here skipped one, second, sum, two⟩
  | up leads ih =>
    rcases List.append_eq_cons_iff.1 whole with ⟨rfl, rfl⟩ | ⟨pieces, rfl, rfl⟩
    · exact ⟨_, 0, start, .arrived, _, Nat.zero_add _, .up leads⟩
    · obtain ⟨mid, first, stops, one, second, sum, two⟩ := ih (rooted.dropLast start) rfl
      exact ⟨mid, first, stops, .up one, second, sum, two⟩
  | down name found leads ih =>
    rcases List.append_eq_cons_iff.1 whole with ⟨rfl, rfl⟩ | ⟨pieces, rfl, rfl⟩
    · exact ⟨_, 0, start, .arrived, _, Nat.zero_add _, .down name found leads⟩
    · obtain ⟨mid, first, stops, one, second, sum, two⟩ := ih found rfl
      exact ⟨mid, first, stops, .down name found one, second, sum, two⟩
  | file name found =>
    rcases List.append_eq_cons_iff.1 whole with ⟨rfl, rfl⟩ | ⟨pieces, rfl, others⟩
    · exact ⟨_, 0, start, .arrived, _, Nat.zero_add _, .file name found⟩
    · exact absurd (List.append_eq_nil_iff.1 others.symm).2 nonempty
  | link name found leads ih =>
    rcases List.append_eq_cons_iff.1 whole with ⟨rfl, rfl⟩ | ⟨pieces, rfl, rfl⟩
    · exact ⟨_, 0, start, .arrived, _, Nat.zero_add _, .link name found leads⟩
    · obtain ⟨mid, first, stops, one, second, rfl, two⟩ :=
        ih (rooted.linkStart start _) (List.append_assoc _ _ _)
      exact ⟨mid, first + 1, stops, .link name found one, second, Nat.add_right_comm _ _ _, two⟩

/-- In a rooted tree a walk from a directory comes to a directory or a file. -/
theorem stands (rooted : tree.IsRooted) (start : tree.find? dir = some .directory)
    (leads : Leads tree links dir pieces place) :
    tree.find? place = some .directory ∨ ∃ content, tree.find? place = some (.file content) := by
  induction leads with
  | arrived => exact .inl start
  | here _ _ ih => exact ih start
  | up _ ih => exact ih (rooted.dropLast start)
  | down _ found _ ih => exact ih found
  | file _ found => exact .inr ⟨_, found⟩
  | link _ _ _ ih => exact ih (rooted.linkStart start _)

theorem of_empties {empties : List Text} (empty : ∀ piece ∈ empties, piece = [])
    (leads : Leads tree links dir rest place) : Leads tree links dir (empties ++ rest) place := by
  induction empties with
  | nil => exact leads
  | cons piece empties ih =>
    obtain ⟨first, others⟩ := List.forall_mem_cons.1 empty
    exact .here (.inl first) (ih others)

theorem of_filter_cons (nonempty : piece ≠ [])
    (same : rest.filter (· ≠ []) = (piece :: pieces).filter (· ≠ []))
    (onward : ∀ others, others.filter (· ≠ []) = pieces.filter (· ≠ []) →
      Leads tree links dir (piece :: others) place) : Leads tree links dir rest place := by
  have kept : (piece :: pieces).filter (· ≠ []) = piece :: pieces.filter (· ≠ []) :=
    List.filter_cons_of_pos (decide_eq_true nonempty)
  rw [kept, List.filter_eq_cons_iff] at same
  obtain ⟨empties, others, rfl, empty, -, same⟩ := same
  exact of_empties (fun piece mem => by simpa using empty piece mem) (onward others same)

theorem of_filter_eq (leads : Leads tree links dir pieces place)
    (stops : tree.find? place = some .directory)
    (same : rest.filter (· ≠ []) = pieces.filter (· ≠ [])) :
    Leads tree links dir rest place := by
  -- The next piece that is not empty is the same in both paths, and decides the next step.
  induction leads generalizing rest with
  | arrived =>
    rw [← List.append_nil rest]
    refine of_empties (fun piece mem => ?_) .arrived
    simpa using List.filter_eq_nil_iff.1 same piece mem
  | here skipped leads ih =>
    rcases skipped with rfl | rfl
    · exact ih stops same
    · exact of_filter_cons (by decide) same fun others same => .here (.inr rfl) (ih stops same)
  | up leads ih => exact of_filter_cons (by decide) same fun others same => .up (ih stops same)
  | down name found leads ih =>
    exact of_filter_cons name.ne_nil same fun others same => .down name found (ih stops same)
  | file name found =>
    rw [found] at stops
    cases stops
  | link name found leads ih =>
    refine of_filter_cons name.ne_nil same fun others same => .link name found (ih stops ?_)
    rw [List.filter_append, List.filter_append, same]

end Leads

/-! ## Trees that have more in them -/

/-- What a walk comes by in one tree it comes by in the other one. Files may hold something else. -/
structure KeepsWays (tree after : FileTree) : Prop where
  directory : ∀ place, tree.find? place = some .directory → after.find? place = some .directory
  file : ∀ place content, tree.find? place = some (.file content) →
    ∃ now, after.find? place = some (.file now)
  link : ∀ place target, tree.find? place = some (.link target) →
    after.find? place = some (.link target)

theorem KeepsWays.leads (keeps : KeepsWays tree after) (leads : Leads tree links dir pieces place) :
    Leads after links dir pieces place := by
  induction leads with
  | arrived => exact .arrived
  | here skipped _ ih => exact .here skipped ih
  | up _ ih => exact .up ih
  | down name found _ ih => exact .down name (keeps.directory _ found) ih
  | file name found =>
    obtain ⟨now, found⟩ := keeps.file _ _ found
    exact .file name found
  | link name found _ ih => exact .link name (keeps.link _ _ found) ih

/-- What stands in one tree stands in the other one too, relative paths start from the same directory,
and the same directories are sealed. -/
structure Keeps (tree after : FileTree) : Prop where
  working : after.working = tree.working
  seals : after.seals = tree.seals
  kept : ∀ place node, tree.find? place = some node → after.find? place = some node

namespace Keeps

theorem refl (tree : FileTree) : Keeps tree tree :=
  ⟨rfl, rfl, fun _ _ => id⟩

theorem trans {between : FileTree} (first : Keeps tree between) (second : Keeps between after) :
    Keeps tree after :=
  ⟨second.working.trans first.working, second.seals.trans first.seals, fun place node found =>
    second.kept place node (first.kept place node found)⟩

theorem insert (tree : FileTree) {place : Place} (free : tree.find? place = none) (node : Node) :
    Keeps tree (tree.insert place node) := by
  refine ⟨rfl, rfl, fun other found standing => ?_⟩
  rw [find?_insert_of_ne]
  · exact standing
  · rintro rfl
    rw [free] at standing
    cases standing

theorem ways (keeps : Keeps tree after) : KeepsWays tree after where
  directory place := keeps.kept place .directory
  file place content found := ⟨content, keeps.kept place _ found⟩
  link place target := keeps.kept place (.link target)

end Keeps

theorem find?_insert_self {node : Node} (free : tree.find? place = none) :
    (tree.insert place node).find? place = some node := by
  have below : place ≠ [] := by
    rintro rfl
    cases free
  rw [find?, if_neg below, Option.map_eq_none_iff] at free
  rw [find?, if_neg below, insert, List.find?_append, free]
  simp

/-! ## Paths as text -/

/-- A path that the system takes: not empty, without a NUL, and not too long. -/
structure IsTaken (path : Text) : Prop where
  ne_nil : path ≠ []
  notMem_nul : '\x00' ∉ path
  byteLength_le : Text.byteLength path ≤ maxPath

theorem locate_eq_ok_iff :
    tree.locate path = .ok place ↔
      IsTaken path ∧ ∃ links ≤ maxLinks,
        Leads tree links (tree.start path) (Text.splitOn '/' path) place := by
  rw [locate, locateUsing]
  constructor
  · intro found
    split at found
    · cases found
    · next nonempty =>
      split at found
      · cases found
      · next noNul =>
        split at found
        · cases found
        · next fits => exact ⟨⟨nonempty, noNul, Nat.not_lt.1 fits⟩, walk_eq_ok_iff.1 found⟩
  · rintro ⟨taken, leads⟩
    rw [if_neg taken.ne_nil, if_neg taken.notMem_nul, if_neg (Nat.not_lt.2 taken.byteLength_le)]
    exact walk_eq_ok_iff.2 leads

theorem at?_eq_some_iff {node : Node} :
    tree.at? path = some node ↔
      ∃ place, tree.locate path = .ok place ∧ tree.find? place = some node := by
  rw [at?]
  cases tree.locate path with
  | error errno => simp
  | ok place => simp

theorem isDirectory_iff : tree.isDirectory path = true ↔ tree.at? path = some .directory := by
  rw [isDirectory]
  rcases tree.at? path with _ | _ | content | target <;> simp

theorem reaches_of_isDirectory (standing : tree.isDirectory path = true) :
    tree.reaches path = true := by
  rw [reaches, isDirectory_iff.1 standing]
  rfl

theorem isFile_of_isDirectory (standing : tree.isDirectory path = true) :
    tree.isFile path = false := by
  rw [isFile, isDirectory_iff.1 standing]

theorem start_isDirectory (rooted : tree.IsRooted) (path : Text) :
    tree.find? (tree.start path) = some .directory := by
  rw [start]
  split
  · exact find?_nil tree
  · exact rooted.working

/-- A path starts from where its beginning does. -/
theorem start_eq_of_isPrefix {front : Text} (lead : front <+: path) (nonempty : front ≠ []) :
    tree.start front = tree.start path := by
  obtain ⟨rest, rfl⟩ := lead
  have first : (front ++ rest).head? = front.head? := by
    rw [List.head?_append, Option.or_of_isSome (List.isSome_head?.2 nonempty)]
  rw [start, start, Path.isAbsolute, Path.isAbsolute, first]

end SyncedFile.FileTree
