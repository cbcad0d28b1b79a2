import SyncedFile.Proofs.LocalPath.Nesting

/-!
# Paths that are not shortened

A plan that keeps the whole path gives away the identity and, but for one ambiguity, the path: a
single segment is laid out as the path that repeats it. So two such plans share a file exactly where
they have to.

* `laidOut_eq_iff` — which paths are laid out alike;
* `fullPath_eq_iff_of_full` — when two plans that keep the whole path share a file.
-/

namespace SyncedFile.LocalPath

/-- Two paths are laid out alike if they are the same or one repeats the only segment of the
other. -/
theorem laidOut_eq_iff {left right : List Text} (leftNonempty : left ≠ [])
    (rightNonempty : right ≠ []) :
    laidOut left = laidOut right ↔
      left = right ∨ ∃ segment, left = [segment] ∧ right = [segment, segment] ∨
        left = [segment, segment] ∧ right = [segment] := by
  by_cases same : left = right
  · subst same
    exact iff_of_true rfl (.inl rfl)
  · rw [← levels_append_getLast leftNonempty, ← levels_append_getLast rightNonempty,
      List.append_singleton_inj, levels_inj leftNonempty rightNonempty same, or_iff_right same]

variable {left right : ResolvedLocator} {p q : Plan}

/-- When two files share a place although no path has been shortened: for one identity, and for
paths that are laid out alike. The budgets and the collaborators may differ. -/
theorem fullPath_eq_iff_of_full (leftRead : left.IsRead) (rightRead : right.IsRead)
    {root leftIdentity rightIdentity : Value} {leftBudget rightBudget : Budget}
    {leftEnsure rightEnsure : Text → Run Unit} {s s' t t' : Surroundings}
    (working : s.working = t.working)
    (leftPlan : (derivePlan left.toLocator root leftIdentity .null leftBudget leftEnsure).run s =
      (.ok p, s'))
    (rightPlan : (derivePlan right.toLocator root rightIdentity .null rightBudget
      rightEnsure).run t = (.ok q, t'))
    (leftFull : p.strategy = .full) (rightFull : q.strategy = .full) :
    p.fullPath = q.fullPath ↔
      leftIdentity = rightIdentity ∧ (left.path = right.path ∨
        ∃ segment, left.path = [segment] ∧ right.path = [segment, segment] ∨
          left.path = [segment, segment] ∧ right.path = [segment]) := by
  obtain ⟨who, slashes, above, leftName, rfl, leading, names, leftRooted, ⟨⟩, leftChosen, -⟩ :=
    chosen_of_derivePlan leftPlan
  obtain ⟨other, _, _, rightName, rfl, -, -, rightRooted, ⟨⟩, rightChosen, -⟩ :=
    chosen_of_derivePlan rightPlan
  rw [← working, leftRooted] at rightRooted
  rw [← Except.ok.inj rightRooted] at rightChosen
  have positive := Path.ne_zero_of_one_or_two leading
  have leftPieces :=
    arePieces_laidOut names who.isName leftRead.segments left.path_ne_nil
  have rightPieces :=
    arePieces_laidOut names other.isName rightRead.segments right.path_ne_nil
  -- The names of a full path tell where the root ends, so the identity is the next one on both
  -- sides and cannot be mistaken for a segment.
  rw [fullPath_eq_ofNames_laidOut positive names who.isName leftRead.segments leftChosen leftFull,
    fullPath_eq_ofNames_laidOut positive names other.isName rightRead.segments rightChosen
      rightFull,
    Path.ofNames_inj leftPieces rightPieces, List.append_cancel_left_eq, List.cons.injEq,
    laidOut_eq_iff left.path_ne_nil right.path_ne_nil, Value.text.injEq]

/-- Where an identity and a first segment change places, the files are different. -/
theorem fullPath_ne_of_exchanged :
    ∃ (left right : ResolvedLocator) (p q : Plan) (s t : Surroundings),
      left.path = [['b'], ['x']] ∧ right.path = [['a'], ['x']] ∧
      (derivePlan left.toLocator (.text "/data") (.text "a") .null .standard
        fun _ => pure ()).run {} = (.ok p, s) ∧
      (derivePlan right.toLocator (.text "/data") (.text "b") .null ⟨20, 1⟩
        fun _ => pure ()).run {} = (.ok q, t) ∧ p.fullPath ≠ q.fullPath := by
  have leftRead : (fileAt [['b'], ['x']] (by decide) (by decide)).IsRead :=
    ⟨.text "realm://h/b/x", none, _, .null, rfl, rfl⟩
  have rightRead : (fileAt [['a'], ['x']] (by decide) (by decide)).IsRead :=
    ⟨.text "realm://h/a/x", none, _, .null, rfl, rfl⟩
  have leftPlan := Run.run_eq_of_toOption (s := {}) (a := ⟨"/data/a/b", "x", .full⟩)
    (x := derivePlan (fileAt [['b'], ['x']] (by decide) (by decide)).toLocator (.text "/data")
      (.text "a") .null .standard fun _ => pure ()) (by decide +kernel)
  have rightPlan := Run.run_eq_of_toOption (s := {}) (a := ⟨"/data/b/a", "x", .full⟩)
    (x := derivePlan (fileAt [['a'], ['x']] (by decide) (by decide)).toLocator (.text "/data")
      (.text "b") .null ⟨20, 1⟩ fun _ => pure ()) (by decide +kernel)
  refine ⟨_, _, _, _, _, _, rfl, rfl, leftPlan, rightPlan, fun same => ?_⟩
  have identities := ((fullPath_eq_iff_of_full leftRead rightRead rfl leftPlan rightPlan rfl
    rfl).1 same).1
  exact absurd (Value.text.inj identities) (by decide)

end SyncedFile.LocalPath
