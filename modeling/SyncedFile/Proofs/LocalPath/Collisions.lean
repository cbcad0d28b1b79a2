import SyncedFile.Proofs.Builder.Plans

/-!
# Local paths that coincide

Two remote files of one identity can be given the same place on disk. This module says exactly when.

* `choose_congr` — a plan depends on the levels and the last segment only;
* `fullPath_eq_iff` — the two plans of different paths;
* `fullPath_eq_iff_of_derivePlan` — the same for plans that have been derived.
-/

namespace SyncedFile

namespace LocalPath

theorem choose_congr {left right : List Text} (same : levels left = levels right)
    (root identity name : Text) (budget : Budget) :
    choose left root identity name budget = choose right root identity name budget := by
  have paths : serverPath left = serverPath right := by
    rw [serverPath_eq_ofNames, serverPath_eq_ofNames, same]
  simp only [choose, paths]

theorem serverPath_inj {left right : List Text} (leftPlain : AreSegments left)
    (rightPlain : AreSegments right) :
    serverPath left = serverPath right ↔ levels left = levels right := by
  have pieces {segments : List Text} (plain : AreSegments segments) :
      Path.ArePieces (levels segments) :=
    Path.arePieces_of_isName (isName_of_mem_levels plain .full)
  rw [serverPath_eq_ofNames, serverPath_eq_ofNames,
    Path.ofNames_inj (pieces leftPlain) (pieces rightPlain)]

/-- When the plans of two paths coincide: if one path repeats the only segment of the other, if
neither plan has kept the path on the server and the last segments are the same, or if one segment
is the digest of the other. -/
def Coincide (left right : ResolvedLocator) (p q : Plan) : Prop :=
  (∃ segment, left.path = [segment] ∧ right.path = [segment, segment] ∨
    left.path = [segment, segment] ∧ right.path = [segment]) ∨
  (p.strategy = .shortDirectory ∧ q.strategy = .shortDirectory ∧
    left.lastSegment = right.lastSegment) ∨
  (p.strategy = .full ∧ q.strategy = .hashedName ∧ serverPath left.path = serverPath right.path ∧
    left.lastSegment = digestName right.lastSegment) ∨
  (p.strategy = .hashedName ∧ q.strategy = .full ∧ serverPath left.path = serverPath right.path ∧
    right.lastSegment = digestName left.lastSegment)

variable {left right : ResolvedLocator} {budget : Budget} {p q : Plan}

/-- When the full paths of the plans of two different paths are the same, as far as the digests of
their last segments are different where the segments are. -/
theorem fullPath_eq_iff {slashes : Nat} (positive : slashes ≠ 0) {above : List Text}
    (root : ∀ name ∈ above, Path.IsName name) {identity : Text} (named : Path.IsName identity)
    (leftPlain : AreSegments left.path) (rightPlain : AreSegments right.path)
    (leftChosen : (choose left.path (Path.ofNames slashes above) identity left.lastSegment
      budget).result = .ok p)
    (rightChosen : (choose right.path (Path.ofNames slashes above) identity right.lastSegment
      budget).result = .ok q)
    (different : left.path ≠ right.path)
    (digests : digestName left.lastSegment = digestName right.lastSegment →
      left.lastSegment = right.lastSegment) :
    p.fullPath = q.fullPath ↔ Coincide left right p q := by
  have leftLast := leftPlain left.lastSegment (List.getLast_mem left.path_ne_nil)
  have rightLast := rightPlain right.lastSegment (List.getLast_mem right.path_ne_nil)
  have pair := levels_inj left.path_ne_nil right.path_ne_nil different
  by_cases same : levels left.path = levels right.path ∧ left.lastSegment = right.lastSegment
  · have plans : p = q := by
      rw [choose_congr same.1, same.2, rightChosen] at leftChosen
      exact (Except.ok.inj leftChosen).symm
    exact iff_of_true (congrArg Plan.fullPath plans) (.inl (pair.1 same))
  · -- The levels or the last segments are different here, as the paths are no such pair.
    have noPair := mt pair.2 same
    have names {segments : List Text} {name : Text} (plain : AreSegments segments)
        (last : Path.IsName name) (strategy : Strategy) : Path.ArePieces
          (above ++ identity :: (strategy.levels segments ++ [strategy.fileName name])) := by
      apply Path.arePieces_of_isName
      simp only [List.forall_mem_append, List.forall_mem_cons]
      exact ⟨root, named, isName_of_mem_levels plain strategy, isName_fileName last strategy,
        List.forall_mem_nil _⟩
    have parts : p.fullPath = q.fullPath ↔
        p.strategy.levels left.path = q.strategy.levels right.path ∧
          p.strategy.fileName left.lastSegment = q.strategy.fileName right.lastSegment := by
      have plainRoot := Path.arePieces_of_isName root
      rw [fullPath_eq_ofNames positive plainRoot named leftPlain leftLast.2 leftChosen,
        fullPath_eq_ofNames positive plainRoot named rightPlain rightLast.2 rightChosen,
        Path.ofNames_inj (names leftPlain (Segment.isName leftLast.1 leftLast.2) _)
          (names rightPlain (Segment.isName rightLast.1 rightLast.2) _),
        List.append_cancel_left_eq, List.cons.injEq, and_iff_right rfl, List.append_singleton_inj]
    have leftLevels := levels_ne_nil left.path_ne_nil
    have rightLevels := levels_ne_nil right.path_ne_nil
    have sameDigest : digestName left.lastSegment = digestName right.lastSegment ↔
        left.lastSegment = right.lastSegment := ⟨digests, congrArg digestName⟩
    rw [parts, Coincide, serverPath_inj leftPlain rightPlain]
    -- Plans that have kept the path on the server differ in it from those that have not.
    cases p.strategy <;> cases q.strategy <;>
      simp only [Strategy.levels, Strategy.fileName, sameDigest, noPair, same, leftLevels,
        rightLevels.symm, reduceCtorEq, true_and, false_and, false_or, or_false]
    exact and_congr_right fun _ => eq_comm

/-- When two files of one identity share a local file, under one root and within one budget. -/
theorem fullPath_eq_iff_of_derivePlan (leftRead : left.IsRead) (rightRead : right.IsRead)
    (different : left.path ≠ right.path) {root identity : Value} {ensure : Text → Run Unit}
    {s s' t t' : Surroundings} (working : s.working = t.working)
    (leftPlan : (derivePlan left.toLocator root identity .null budget ensure).run s = (.ok p, s'))
    (rightPlan : (derivePlan right.toLocator root identity .null budget ensure).run t =
      (.ok q, t'))
    (digests : digestName left.lastSegment = digestName right.lastSegment →
      left.lastSegment = right.lastSegment) :
    p.fullPath = q.fullPath ↔ Coincide left right p q := by
  obtain ⟨who, rfl, leftPrepared⟩ := derivePlan_eq_ok leftPlan
  obtain ⟨other, same, rightPrepared⟩ := derivePlan_eq_ok rightPlan
  obtain ⟨leftRoot, leftName, leftRooted, ⟨⟩, leftChosen, -⟩ := preparePlan_eq_ok leftPrepared
  obtain ⟨rightRoot, rightName, rightRooted, ⟨⟩, rightChosen, -⟩ := preparePlan_eq_ok rightPrepared
  have roots : rightRoot = leftRoot := by
    rw [← working, leftRooted] at rightRooted
    exact (Except.ok.inj rightRooted).symm
  rw [roots, ← Value.text.inj same] at rightChosen
  obtain ⟨slashes, above, leading, names, rfl⟩ := rootOf_eq_ok leftRooted
  exact fullPath_eq_iff (Path.ne_zero_of_one_or_two leading) names who.isName leftRead.segments
    rightRead.segments leftChosen rightChosen different digests

def fileAt (path : List Text) (nonempty : path ≠ []) (resolved : Segment.placeholder ∉ path) :
    ResolvedLocator :=
  ⟨Locator.onHost path nonempty, resolved⟩

/-- A path of one segment gets the place of the path that repeats it. -/
theorem fullPath_eq_of_repeated :
    ∃ (left right : ResolvedLocator) (p q : Plan) (s t : Surroundings),
      left.path = [['c']] ∧ right.path = [['c'], ['c']] ∧
      (derivePlan left.toLocator (.text "/data") (.text "u") .null .standard
        fun _ => pure ()).run {} = (.ok p, s) ∧
      (derivePlan right.toLocator (.text "/data") (.text "u") .null .standard
        fun _ => pure ()).run {} = (.ok q, t) ∧ p.fullPath = q.fullPath := by
  have leftRead : (fileAt [['c']] (by decide) (by decide)).IsRead :=
    ⟨.text "realm://h/c", none, _, .null, rfl, rfl⟩
  have rightRead : (fileAt [['c'], ['c']] (by decide) (by decide)).IsRead :=
    ⟨.text "realm://h/c/c", none, _, .null, rfl, rfl⟩
  have leftPlan := Run.run_eq_of_toOption (s := {}) (a := ⟨"/data/u/c", "c", .full⟩)
    (x := derivePlan (fileAt [['c']] (by decide) (by decide)).toLocator (.text "/data") (.text "u")
      .null .standard fun _ => pure ()) (by decide +kernel)
  have rightPlan := Run.run_eq_of_toOption (s := {}) (a := ⟨"/data/u/c", "c", .full⟩)
    (x := derivePlan (fileAt [['c'], ['c']] (by decide) (by decide)).toLocator (.text "/data")
      (.text "u") .null .standard fun _ => pure ()) (by decide +kernel)
  exact ⟨_, _, _, _, _, _, rfl, rfl, leftPlan, rightPlan,
    (fullPath_eq_iff_of_derivePlan leftRead rightRead (by decide) rfl leftPlan rightPlan
      fun _ => rfl).2 (.inl ⟨['c'], .inl ⟨rfl, rfl⟩⟩)⟩

set_option maxRecDepth 4000 in
/-- Two files whose paths on the server are left out share a place if they are named alike. -/
theorem fullPath_eq_of_shortDirectory :
    ∃ (left right : ResolvedLocator) (p q : Plan) (s t : Surroundings),
      left.IsRead ∧ right.IsRead ∧ left.path ≠ right.path ∧
      (derivePlan left.toLocator (.text "/data") (.text "u") .null .standard
        fun _ => pure ()).run {} = (.ok p, s) ∧
      (derivePlan right.toLocator (.text "/data") (.text "u") .null .standard
        fun _ => pure ()).run {} = (.ok q, t) ∧
      p.strategy = .shortDirectory ∧ q.strategy = .shortDirectory ∧ p.fullPath = q.fullPath := by
  have leftRead : (fileAt [List.replicate 250 'a', "x"] (by decide) (by decide)).IsRead :=
    ⟨.text ("realm://h/" ++ List.replicate 250 'a' ++ "/x"), none, _, .null, rfl, rfl⟩
  have rightRead : (fileAt [List.replicate 250 'b', "x"] (by decide) (by decide)).IsRead :=
    ⟨.text ("realm://h/" ++ List.replicate 250 'b' ++ "/x"), none, _, .null, rfl, rfl⟩
  have leftPlan := Run.run_eq_of_toOption (s := {})
    (a := ⟨"/data/u", "9DD4E461268C8034F5C8564E155C67A6", .shortDirectory⟩)
    (x := derivePlan (fileAt [List.replicate 250 'a', "x"] (by decide) (by decide)).toLocator
      (.text "/data") (.text "u") .null .standard fun _ => pure ()) (by decide +kernel)
  have rightPlan := Run.run_eq_of_toOption (s := {})
    (a := ⟨"/data/u", "9DD4E461268C8034F5C8564E155C67A6", .shortDirectory⟩)
    (x := derivePlan (fileAt [List.replicate 250 'b', "x"] (by decide) (by decide)).toLocator
      (.text "/data") (.text "u") .null .standard fun _ => pure ()) (by decide +kernel)
  exact ⟨_, _, _, _, _, _, leftRead, rightRead, by decide, leftPlan, rightPlan, rfl, rfl, rfl⟩

end LocalPath
end SyncedFile
