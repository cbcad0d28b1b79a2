import SyncedFile.Proofs.LocalPath.Collisions
import SyncedFile.Proofs.Path.Below

/-!
# Files in the place of directories

Levels and files share one tree of names, so the file of one path can take a place where another
path needs a directory. This module says exactly when.

* `laidOut`, `Blocks` — paths as they are laid out below the identity, and those of them that
  another goes on from;
* `prefix_levels_iff` — when a path as it is laid out leads along the levels of another;
* `directory_below_fullPath_iff` — when the directory of one plan lies at or below the file of
  another.
-/

namespace SyncedFile.LocalPath

/-- The names that a path is laid out along: a single segment is a level and the file in it. -/
def laidOut : List Text → List Text
  | [segment] => [segment, segment]
  | segments => segments

/-- The right path goes on from the left one as it is laid out. -/
def Blocks (left right : List Text) : Prop :=
  laidOut left <+: right ∧ laidOut left ≠ right

instance (left right : List Text) : Decidable (Blocks left right) :=
  inferInstanceAs (Decidable (_ ∧ _))

variable {segments left right : List Text}

theorem laidOut_of_several (several : ∀ segment, segments ≠ [segment]) :
    laidOut segments = segments := by
  unfold laidOut
  split
  · exact absurd rfl (several _)
  · rfl

theorem levels_append_getLast (nonempty : segments ≠ []) :
    levels segments ++ [segments.getLast nonempty] = laidOut segments := by
  by_cases one : ∃ segment, segments = [segment]
  · obtain ⟨segment, rfl⟩ := one
    rfl
  · have several := not_exists.1 one
    rw [levels_eq_dropLast several, laidOut_of_several several, List.dropLast_concat_getLast]

theorem one_lt_length_laidOut (nonempty : segments ≠ []) : 1 < (laidOut segments).length := by
  have levelled := List.length_pos_of_ne_nil (levels_ne_nil nonempty)
  rw [← levels_append_getLast nonempty, List.length_append, List.length_singleton]
  omega

theorem prefix_dropLast_iff {α : Type} {part whole : List α} (nonempty : whole ≠ []) :
    part <+: whole.dropLast ↔ part <+: whole ∧ part ≠ whole := by
  constructor
  · intro short
    refine ⟨short.trans (List.dropLast_prefix whole), ?_⟩
    rintro rfl
    have shorter := short.length_le
    have filled := List.length_pos_of_ne_nil nonempty
    rw [List.length_dropLast] at shorter
    omega
  · rintro ⟨long, ne⟩
    rw [← List.dropLast_concat_getLast nonempty, List.prefix_concat_iff] at long
    rcases long with same | short
    · exact absurd (same.trans (List.dropLast_concat_getLast nonempty)) ne
    · exact short

/-- A path as it is laid out leads along the levels of another exactly where the other goes on from
it. -/
theorem prefix_levels_iff (leftNonempty : left ≠ []) (rightNonempty : right ≠ []) :
    laidOut left <+: levels right ↔ Blocks left right := by
  by_cases one : ∃ segment, right = [segment]
  · obtain ⟨segment, rfl⟩ := one
    -- A path as it is laid out has two names at least, so it is not part of a single one.
    have long : ¬laidOut left <+: [segment] := fun short =>
      (one_lt_length_laidOut leftNonempty).not_ge short.length_le
    exact iff_of_false long fun blocks => long blocks.1
  · rw [levels_eq_dropLast (not_exists.1 one), prefix_dropLast_iff rightNonempty, Blocks]

/-! ## Plans that keep the whole path -/

theorem arePieces_laidOut {above : List Text} (root : ∀ name ∈ above, Path.IsName name)
    {identity : Text} (named : Path.IsName identity) (plain : AreSegments segments)
    (nonempty : segments ≠ []) : Path.ArePieces (above ++ identity :: laidOut segments) := by
  have last := plain _ (List.getLast_mem nonempty)
  apply Path.arePieces_of_isName
  rw [← levels_append_getLast nonempty]
  simp only [List.forall_mem_append, List.forall_mem_cons]
  exact ⟨root, named, isName_of_mem_levels plain .full, Segment.isName last.1 last.2,
    List.forall_mem_nil _⟩

variable {left right : ResolvedLocator} {budget : Budget} {p q : Plan}

/-- A plan that keeps the whole path has its file where the path is laid out. -/
theorem fullPath_eq_ofNames_laidOut {slashes : Nat} (positive : slashes ≠ 0) {above : List Text}
    (root : ∀ name ∈ above, Path.IsName name) {identity : Text} (named : Path.IsName identity)
    (plain : AreSegments left.path)
    (chosen : (choose left.path (Path.ofNames slashes above) identity left.lastSegment
      budget).result = .ok p)
    (full : p.strategy = .full) :
    p.fullPath = Path.ofNames slashes (above ++ identity :: laidOut left.path) := by
  have last := plain left.lastSegment (List.getLast_mem left.path_ne_nil)
  rw [fullPath_eq_ofNames positive (Path.arePieces_of_isName root) named plain last.2 chosen, full,
    Strategy.levels, Strategy.fileName, Locator.lastSegment, levels_append_getLast]

/-- For plans that keep the whole path, the directory of the one lies at the file of the other or
below it exactly if the path of the first goes on from that of the other. -/
theorem directory_below_fullPath_iff {slashes : Nat} (positive : slashes ≠ 0) {above : List Text}
    (root : ∀ name ∈ above, Path.IsName name) {identity : Text} (named : Path.IsName identity)
    (leftPlain : AreSegments left.path) (rightPlain : AreSegments right.path)
    (leftChosen : (choose left.path (Path.ofNames slashes above) identity left.lastSegment
      budget).result = .ok p)
    (rightChosen : (choose right.path (Path.ofNames slashes above) identity right.lastSegment
      budget).result = .ok q)
    (leftFull : p.strategy = .full) (rightFull : q.strategy = .full) :
    Path.IsAtOrBelow q.directory p.fullPath ↔ Blocks left.path right.path := by
  have rightLevels := isName_of_mem_levels rightPlain .full
  -- Both lead along the names of the root and the identity first.
  have file := fullPath_eq_ofNames_laidOut positive root named leftPlain leftChosen leftFull
  have dir : q.directory = Path.ofNames slashes (above ++ identity :: levels right.path) := by
    rw [(choose_eq_ok rightChosen).1, rightFull, directory_ofNames positive
      (Path.arePieces_of_isName root) named (Path.arePieces_of_isName rightLevels), Strategy.levels]
  have filePieces := arePieces_laidOut root named leftPlain left.path_ne_nil
  have dirPieces : Path.ArePieces (above ++ identity :: levels right.path) := by
    apply Path.arePieces_of_isName
    simp only [List.forall_mem_append, List.forall_mem_cons]
    exact ⟨root, named, rightLevels⟩
  rw [file, dir, Path.isAtOrBelow_ofNames (List.append_ne_nil_of_right_ne_nil _
    (List.cons_ne_nil _ _)) filePieces dirPieces, List.prefix_append_right_inj,
    List.cons_prefix_cons, and_iff_right rfl, prefix_levels_iff left.path_ne_nil right.path_ne_nil]

/-- When the file of one path lies where another path of the same identity needs a directory, under
one root and within one budget. -/
theorem directory_below_fullPath_iff_of_derivePlan (leftRead : left.IsRead)
    (rightRead : right.IsRead) {root identity : Value} {ensure : Text → Run Unit}
    {s s' t t' : Surroundings} (working : s.working = t.working)
    (leftPlan : (derivePlan left.toLocator root identity .null budget ensure).run s = (.ok p, s'))
    (rightPlan : (derivePlan right.toLocator root identity .null budget ensure).run t =
      (.ok q, t'))
    (leftFull : p.strategy = .full) (rightFull : q.strategy = .full) :
    Path.IsAtOrBelow q.directory p.fullPath ↔ Blocks left.path right.path := by
  obtain ⟨who, slashes, above, leftName, rfl, leading, names, leftRooted, ⟨⟩, leftChosen, -⟩ :=
    chosen_of_derivePlan leftPlan
  obtain ⟨other, _, _, rightName, same, -, -, rightRooted, ⟨⟩, rightChosen, -⟩ :=
    chosen_of_derivePlan rightPlan
  rw [← working, leftRooted] at rightRooted
  rw [← Except.ok.inj rightRooted, ← Value.text.inj same] at rightChosen
  exact directory_below_fullPath_iff (Path.ne_zero_of_one_or_two leading) names who.isName
    leftRead.segments rightRead.segments leftChosen rightChosen leftFull rightFull

/-- A path of one segment lies where the path that repeats it and goes on needs a directory. -/
theorem directory_below_fullPath_of_single :
    ∃ (left right : ResolvedLocator) (p q : Plan) (s t : Surroundings),
      left.path = [['c']] ∧ right.path = [['c'], ['c'], ['x'], ['y']] ∧
      (derivePlan left.toLocator (.text "/data") (.text "u") .null .standard
        fun _ => pure ()).run {} = (.ok p, s) ∧
      (derivePlan right.toLocator (.text "/data") (.text "u") .null .standard
        fun _ => pure ()).run {} = (.ok q, t) ∧ Path.IsAtOrBelow q.directory p.fullPath := by
  have leftRead : (fileAt [['c']] (by decide) (by decide)).IsRead :=
    ⟨.text "realm://h/c", none, _, .null, rfl, rfl⟩
  have rightRead : (fileAt [['c'], ['c'], ['x'], ['y']] (by decide) (by decide)).IsRead :=
    ⟨.text "realm://h/c/c/x/y", none, _, .null, rfl, rfl⟩
  have leftPlan := Run.run_eq_of_toOption (s := {}) (a := ⟨"/data/u/c", "c", .full⟩)
    (x := derivePlan (fileAt [['c']] (by decide) (by decide)).toLocator (.text "/data") (.text "u")
      .null .standard fun _ => pure ()) (by decide +kernel)
  have rightPlan := Run.run_eq_of_toOption (s := {}) (a := ⟨"/data/u/c/c/x", "y", .full⟩)
    (x := derivePlan (fileAt [['c'], ['c'], ['x'], ['y']] (by decide) (by decide)).toLocator
      (.text "/data") (.text "u") .null .standard fun _ => pure ()) (by decide +kernel)
  exact ⟨_, _, _, _, _, _, rfl, rfl, leftPlan, rightPlan,
    (directory_below_fullPath_iff_of_derivePlan leftRead rightRead rfl leftPlan rightPlan rfl
      rfl).2 (by decide)⟩

/-- The file of a path is the directory of a path that goes on from it. -/
theorem fullPath_eq_directory_of_longer :
    ∃ (left right : ResolvedLocator) (p q : Plan) (s t : Surroundings),
      left.IsRead ∧ right.IsRead ∧ left.path ≠ right.path ∧
      (derivePlan left.toLocator (.text "/data") (.text "u") .null .standard
        fun _ => pure ()).run {} = (.ok p, s) ∧
      (derivePlan right.toLocator (.text "/data") (.text "u") .null .standard
        fun _ => pure ()).run {} = (.ok q, t) ∧
      p.strategy = .full ∧ q.strategy = .full ∧ p.fullPath = q.directory := by
  have leftRead : (fileAt [['a'], ['b']] (by decide) (by decide)).IsRead :=
    ⟨.text "realm://h/a/b", none, _, .null, rfl, rfl⟩
  have rightRead : (fileAt [['a'], ['b'], ['c']] (by decide) (by decide)).IsRead :=
    ⟨.text "realm://h/a/b/c", none, _, .null, rfl, rfl⟩
  have leftPlan := Run.run_eq_of_toOption (s := {}) (a := ⟨"/data/u/a", "b", .full⟩)
    (x := derivePlan (fileAt [['a'], ['b']] (by decide) (by decide)).toLocator (.text "/data")
      (.text "u") .null .standard fun _ => pure ()) (by decide +kernel)
  have rightPlan := Run.run_eq_of_toOption (s := {}) (a := ⟨"/data/u/a/b", "c", .full⟩)
    (x := derivePlan (fileAt [['a'], ['b'], ['c']] (by decide) (by decide)).toLocator
      (.text "/data") (.text "u") .null .standard fun _ => pure ()) (by decide +kernel)
  exact ⟨_, _, _, _, _, _, leftRead, rightRead, by decide, leftPlan, rightPlan, rfl, rfl, rfl⟩

end SyncedFile.LocalPath
