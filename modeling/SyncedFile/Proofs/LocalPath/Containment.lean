import SyncedFile.Proofs.Builder.Plans
import SyncedFile.Proofs.Path.Below

/-!
# Directories inside that of their identity

Every identity has its directory under the root. The directory of a plan lies there for all paths
whose segments have been checked. A resolved locator may be given other segments, and then its plan
stays inside as far as the steps that they lead do.

* `Strategy.steps` — the steps below the identity that a path leads;
* `Plan.IsContained` — a directory that lies inside that of an identity;
* `isContained_iff` — when it does, for any segments.
-/

namespace SyncedFile.LocalPath

/-- The steps below the identity's directory. A segment with slashes leads several steps, and one
that is empty leads none. -/
def Strategy.steps (segments : List Text) (strategy : Strategy) : List Text :=
  (strategy.levels segments).flatMap Path.names

/-- In its normal form the directory of a plan is that of the identity under the root, or lies
below it. -/
def Plan.IsContained (plan : Plan) (root identity : Text) : Prop :=
  Path.IsAtOrBelow (Path.normalize plan.directory) (Path.join root identity)

variable {segments : List Text}

theorem arePieces_steps (segments : List Text) (strategy : Strategy) :
    Path.ArePieces (strategy.steps segments) := by
  intro step mem
  obtain ⟨segment, -, given⟩ := List.mem_flatMap.1 mem
  exact Path.arePieces_names segment step given

theorem isName_of_mem_steps (plain : AreSegments segments) (strategy : Strategy) :
    ∀ step ∈ strategy.steps segments, Path.IsName step := by
  intro step mem
  obtain ⟨segment, level, given⟩ := List.mem_flatMap.1 mem
  have named := isName_of_mem_levels plain strategy segment level
  have single : Path.names segment = [segment] :=
    Path.names_ofNames 0 (Path.arePieces_of_isName (List.forall_mem_singleton.2 named))
  rw [single, List.mem_singleton] at given
  exact given ▸ named

/-- The directory of a plan lies inside that of the identity exactly as far as the steps of its
path stay below it. -/
theorem isContained_iff {slashes : Nat} (one_or_two : slashes = 1 ∨ slashes = 2)
    {above : List Text} (root : ∀ name ∈ above, Path.IsName name) {identity : Text}
    (named : Path.IsName identity) {name : Text} {budget : Budget} {plan : Plan}
    (chosen : (choose segments (Path.ofNames slashes above) identity name budget).result =
      .ok plan) :
    plan.IsContained (Path.ofNames slashes above) identity ↔
      Path.StaysBelow (above ++ [identity]) (plan.strategy.steps segments) := by
  have positive := Path.ne_zero_of_one_or_two one_or_two
  have plainRoot := Path.arePieces_of_isName root
  have base : Path.join (Path.ofNames slashes above) identity =
      Path.ofNames slashes (above ++ [identity]) :=
    Path.join_ofNames positive plainRoot ⟨named.ne_nil, named.notMem_slash⟩
  have dir : plan.directory =
      Path.ofNames slashes (above ++ [identity] ++ plan.strategy.steps segments) := by
    rw [(choose_eq_ok chosen).1, directory_eq_ofNames positive plainRoot named,
      Path.names_ofNames_zero, Strategy.steps, List.append_assoc, List.singleton_append]
  have names : ∀ part ∈ above ++ [identity], Path.IsName part :=
    List.forall_mem_append.2 ⟨root, List.forall_mem_singleton.2 named⟩
  rw [Plan.IsContained, base, dir]
  exact Path.isAtOrBelow_normalize_iff one_or_two
    (List.append_ne_nil_of_right_ne_nil _ (List.cons_ne_nil _ _)) names (arePieces_steps _ _)

/-- The directory that has been made ready for a locator lies inside that of the identity exactly as
far as the steps of its path stay below it, as those of checked segments always do. -/
theorem isContained_iff_of_derivePlan {locator : ResolvedLocator} {root identity fileName : Value}
    {budget : Budget} {ensure : Text → Run Unit} {s t : Surroundings} {plan : Plan}
    (given : (derivePlan locator.toLocator root identity fileName budget ensure).run s =
      (.ok plan, t)) :
    ∃ (above : Text) (who : Identity),
      rootOf s.working root = .ok above ∧ identity = .text who.text ∧
      (∃ between, (ensure plan.directory).run between = (.ok (), t)) ∧
      (plan.IsContained above who.text ↔
        Path.StaysBelow (Path.names above ++ [who.text]) (plan.strategy.steps locator.path)) ∧
      (AreSegments locator.path → plan.IsContained above who.text) := by
  obtain ⟨who, slashes, above, name, rfl, leading, names, rooted, -, chosen, between, -, ready⟩ :=
    chosen_of_derivePlan given
  have contained := isContained_iff leading names who.isName chosen
  refine ⟨_, who, rooted, rfl, ⟨between, ready⟩, ?_, ?_⟩
  · rw [Path.names_ofNames slashes (Path.arePieces_of_isName names)]
    exact contained
  · -- Checked segments lead down only.
    intro plain
    exact contained.2 (Path.staysBelow_of_isName (isName_of_mem_steps plain plan.strategy))

/-- Segments that lead up take the directory away from its identity. -/
theorem not_isContained_of_relative :
    ∃ (locator : ResolvedLocator) (plan : Plan) (t : Surroundings),
      locator.path = ["..", "..", "etc", "x"] ∧
      (derivePlan locator.toLocator (.text "/data") (.text "user42") .null .standard
        fun _ => pure ()).run {} = (.ok plan, t) ∧
      plan.directory = "/data/user42/../../etc" ∧ Path.normalize plan.directory = "/etc" ∧
      ¬plan.IsContained "/data" "user42" := by
  have planned := Run.run_eq_of_toOption (s := {}) (a := ⟨"/data/user42/../../etc", "x", .full⟩)
    (x := derivePlan (⟨Locator.onHost ["..", "..", "etc", "x"] (by decide), by decide⟩ :
      ResolvedLocator).toLocator (.text "/data") (.text "user42") .null .standard fun _ => pure ())
    (by decide +kernel)
  obtain ⟨above, who, rooted, identity, -, contained, -⟩ := isContained_iff_of_derivePlan planned
  obtain rfl : above = "/data" := (Except.ok.inj rooted).symm
  rw [← Value.text.inj identity] at contained
  exact ⟨_, _, _, rfl, planned, rfl, by decide +kernel, mt contained.1 (by decide +kernel)⟩

end SyncedFile.LocalPath
