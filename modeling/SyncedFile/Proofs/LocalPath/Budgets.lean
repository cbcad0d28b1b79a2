import SyncedFile.Proofs.LocalPath.Derivation

/-!
# Budgets of local paths

How the outcome of deriving a local path depends on its budgets. A wider limit for full paths lets
an earlier place fit, which keeps more of the name and of the path on the server. All that can go
wrong then is that the name itself, in the place of its digest, is too long.

* `Target.choice`, `targetOf`, `derivePlan_eq_choice` — deriving as a choice for a target;
* `Target.firstFit?_mono` — the first place that fits under a wider limit;
* `Widened`, `widened_of_le` — the outcomes under two limits;
* `Budget.SparesNames`, `failsOnly_choosePlan` — budgets under which no file name is too long.
-/

namespace SyncedFile

namespace LocalPath

/-! ## Places under a wider limit -/

theorem Strategy.earlier_cases (strategy other : Strategy) :
    strategy = other ∨ strategy ∈ other.earlier ∨ other ∈ strategy.earlier := by
  cases strategy <;> cases other <;> decide

namespace Target

variable {target : Target} {limit wider names : Int} {strategy : Strategy} {plan : Plan}

theorem firstFit?_mono (le : limit ≤ wider) (first : target.firstFit? limit = some strategy) :
    ∃ sooner, target.firstFit? wider = some sooner ∧
      (sooner = strategy ∨ sooner ∈ strategy.earlier) := by
  have fits := (firstFit?_eq_some_iff.1 first).1
  cases found : target.firstFit? wider with
  | none =>
    have long := firstFit?_eq_none_iff.1 found strategy
    omega
  | some sooner =>
    refine ⟨sooner, rfl, ?_⟩
    obtain same | before | after := Strategy.earlier_cases sooner strategy
    · exact .inl same
    · exact .inr before
    · -- The place that has fitted already would have been passed over.
      have long := (firstFit?_eq_some_iff.1 found).2 strategy after
      omega

theorem firstFit?_eq_none_of_le (le : limit ≤ wider) (refused : target.firstFit? wider = none) :
    target.firstFit? limit = none := by
  rw [firstFit?_eq_none_iff] at refused ⊢
  intro strategy
  have long := refused strategy
  omega

/-! ## Choices under a wider limit -/

/-- The choice for a target. -/
def choice (target : Target) (budget : Budget) : Choice :=
  choose target.segments target.root target.identity target.name budget

theorem result_of_firstFit? (budget : Budget)
    (first : target.firstFit? budget.fullPath = some strategy) :
    (target.choice budget).result =
      if budget.fileName < Text.byteLength (strategy.fileName target.name) then
        .error (.fileNameTooLong (strategy.fileName target.name) budget.fileName)
      else .ok (target.plan strategy) := by
  simp only [choice, choose_eq, first, finish_eq]

theorem result_of_not_firstFit? (budget : Budget)
    (none : target.firstFit? budget.fullPath = none) :
    (target.choice budget).result =
      .error (.pathTooLong (target.candidate .shortDirectory) budget.fullPath) := by
  simp only [choice, choose_eq, none]

/-- A plan that is chosen stays or gives way to one of an earlier strategy, unless that one keeps
the name and it is too long. -/
theorem result_of_le (le : limit ≤ wider)
    (chosen : (target.choice ⟨limit, names⟩).result = .ok plan) :
    (∃ better, (target.choice ⟨wider, names⟩).result = .ok better ∧
      (better = plan ∨ better.strategy ∈ plan.strategy.earlier)) ∨
    (plan.strategy ≠ .full ∧ names < Text.byteLength target.name ∧
      (target.choice ⟨wider, names⟩).result = .error (.fileNameTooLong target.name names)) := by
  obtain ⟨strategy, first, fitting, rfl⟩ := target.choose_eq_ok_iff.1 chosen
  obtain ⟨sooner, found, order⟩ := firstFit?_mono le first
  rw [result_of_firstFit? ⟨wider, names⟩ found]
  split
  · next long =>
    -- The name in the given plan has fitted, so this one is another, and no digest either.
    obtain rfl | before := order
    · exact absurd fitting (Int.not_le.2 long)
    · have shortened : strategy ≠ .full := by
        rintro rfl
        cases before
      have digest := (fileName_cases strategy target.name).resolve_left shortened
      obtain rfl | other := fileName_cases sooner target.name
      · exact .inr ⟨shortened, long, rfl⟩
      · rw [other, ← digest] at long
        exact absurd fitting (Int.not_le.2 long)
  · obtain rfl | before := order
    · exact .inl ⟨_, rfl, .inl rfl⟩
    · exact .inl ⟨_, rfl, .inr before⟩

theorem result_eq_pathTooLong (le : limit ≤ wider) {path : Text} {bound : Int}
    (refused : (target.choice ⟨wider, names⟩).result = .error (.pathTooLong path bound)) :
    (target.choice ⟨limit, names⟩).result = .error (.pathTooLong path limit) := by
  cases found : target.firstFit? wider with
  | none =>
    rw [result_of_not_firstFit? ⟨wider, names⟩ found] at refused
    cases refused
    exact result_of_not_firstFit? ⟨limit, names⟩ (firstFit?_eq_none_of_le le found)
  | some strategy =>
    rw [result_of_firstFit? ⟨wider, names⟩ found] at refused
    split at refused <;> cases refused

end Target
end LocalPath

/-! ## Deriving as a choice -/

/-- What a local path is derived for, or why it cannot be. -/
def targetOf (working : Text) (locator : Locator) (root identity fileName : Value) :
    Except Fault LocalPath.Target :=
  match checkOwnerIdentity locator.url identity with
  | .error failure => .error (.failure failure)
  | .ok who =>
    match rootOf working root with
    | .error m => .error (.misuse m)
    | .ok above =>
      match fileNameOf locator fileName with
      | .error m => .error (.misuse m)
      | .ok name => .ok ⟨locator.path, above, who.text, name⟩

section Deriving

variable {working : Text} {locator : Locator} {root identity fileName : Value}
  {budget : LocalPath.Budget} {ensure : Text → Run Unit}

theorem kind_of_targetOf {failure : Failure}
    (refused : targetOf working locator root identity fileName = .error (.failure failure)) :
    failure.kind = .missingIdentity ∨ failure.kind = .validation := by
  rw [targetOf] at refused
  split at refused
  · next refusedIdentity =>
    cases refused
    exact kind_of_checkOwnerIdentity refusedIdentity
  · split at refused
    · cases refused
    · split at refused <;> cases refused

theorem fileNameOf_of_targetOf {target : LocalPath.Target}
    (given : targetOf working locator root identity fileName = .ok target) :
    fileNameOf locator fileName = .ok target.name := by
  rw [targetOf] at given
  split at given
  · cases given
  · split at given
    · cases given
    · split at given
      · cases given
      · next named =>
        cases given
        exact named

theorem derivePlan_eq_choice (s : Surroundings) :
    (derivePlan locator root identity fileName budget ensure).run s =
      match targetOf s.working locator root identity fileName with
      | .error fault => (.error fault, s)
      | .ok target => (target.choice budget).outcome ensure s := by
  cases accepted : checkOwnerIdentity locator.url identity with
  | error failure =>
    rw [derivePlan, targetOf, accepted]
    rfl
  | ok who =>
    simp only [targetOf, accepted]
    cases rooted : rootOf s.working root with
    | error m =>
      simp only [derivePlan, preparePlan, accepted, Run.bind_run, Run.ofFailure_ok_run,
        Run.get_run, rooted]
      rfl
    | ok above =>
      cases named : fileNameOf locator fileName with
      | error m =>
        simp only [derivePlan, preparePlan, accepted, Run.bind_run, Run.ofFailure_ok_run,
          Run.get_run, rooted, Run.ofMisuse_ok_run, named]
        rfl
      | ok name => exact LocalPath.derivePlan_run accepted rooted named

end Deriving

namespace LocalPath

/-! ## Deriving under a wider limit -/

section Widening

variable {locator : Locator} {root identity fileName : Value} {ensure : Text → Run Unit}
  {budget : Budget} {limit wider names : Int} {s t : Surroundings}

/-- With a collaborator that succeeds, the choice alone decides. -/
theorem derivePlan_fst (succeeds : ∀ directory u, ((ensure directory).run u).1 = .ok ())
    (s : Surroundings) :
    ((derivePlan locator root identity fileName budget ensure).run s).1 =
      match targetOf s.working locator root identity fileName with
      | .error fault => .error fault
      | .ok target => (target.choice budget).result.mapError .failure := by
  rw [derivePlan_eq_choice]
  cases targetOf s.working locator root identity fileName with
  | error fault => rfl
  | ok target =>
    simp only [Choice.outcome]
    cases (target.choice budget).result with
    | error failure => rfl
    | ok plan =>
      simp only [Plan.ready_run, succeeds]
      rfl

/-- How the outcome under a limit for full paths, `narrow`, is related to the one under a wider
limit, `wide`. The limit for file names is `names` under both. -/
structure Widened (locator : Locator) (fileName : Value) (limit names : Int)
    (narrow wide : Except Fault Plan) : Prop where
  /-- A plan stays or gives way to one of an earlier strategy, unless that one keeps the name and it
  is too long. -/
  planned : ∀ plan, narrow = .ok plan →
    (∃ better, wide = .ok better ∧
      (better = plan ∨ better.strategy ∈ plan.strategy.earlier)) ∨
    ∃ name, fileNameOf locator fileName = .ok name ∧ names < Text.byteLength name ∧
      wide = .error (.failure (.fileNameTooLong name names))
  full : ∀ plan, narrow = .ok plan → plan.strategy = .full → wide = .ok plan
  pathTooLong : ∀ path bound, wide = .error (.failure (.pathTooLong path bound)) →
    narrow = .error (.failure (.pathTooLong path limit))

/-- A wider limit for full paths never loses more of a path, and never refuses a path for its length
that a narrower one lets pass. -/
theorem widened_of_le (le : limit ≤ wider)
    (succeeds : ∀ directory u, ((ensure directory).run u).1 = .ok ())
    (working : s.working = t.working) :
    Widened locator fileName limit names
      ((derivePlan locator root identity fileName ⟨limit, names⟩ ensure).run s).1
      ((derivePlan locator root identity fileName ⟨wider, names⟩ ensure).run t).1 := by
  rw [derivePlan_fst succeeds, derivePlan_fst succeeds, working]
  cases given : targetOf t.working locator root identity fileName with
  | error fault =>
    refine ⟨nofun, nofun, fun path bound refused => ?_⟩
    obtain rfl := Except.error.inj refused
    rcases kind_of_targetOf given with kind | kind <;> cases kind
  | ok target =>
    have named := fileNameOf_of_targetOf given
    refine {
      planned := fun plan planned => ?_
      full := fun plan planned full => ?_
      pathTooLong := fun path bound refused => ?_ }
    · obtain ⟨better, chosen, order⟩ | ⟨-, long, refused⟩ :=
        Target.result_of_le le (Fault.mapError_failure_eq_ok.1 planned)
      · exact .inl ⟨better, Fault.mapError_failure_eq_ok.2 chosen, order⟩
      · exact .inr ⟨target.name, named, long, Fault.mapError_failure_eq_error.2 refused⟩
    · -- No strategy is earlier than the full one, and its name has been measured already.
      obtain ⟨better, chosen, order⟩ | ⟨shortened, -⟩ :=
        Target.result_of_le le (Fault.mapError_failure_eq_ok.1 planned)
      · obtain rfl := order.resolve_right (by rw [full]; exact List.not_mem_nil)
        exact Fault.mapError_failure_eq_ok.2 chosen
      · exact absurd full shortened
    · exact Fault.mapError_failure_eq_error.2
        (Target.result_eq_pathTooLong le (Fault.mapError_failure_eq_error.1 refused))

end Widening

/-- A name that has given way to its digest just fits again under a wider limit, and is too long
for a file name. -/
theorem widened_of_long_name :
    let derived (limit : Int) := ((derivePlan (.onHost ["a", "b"] (List.cons_ne_nil _ _))
      (.text "/data") (.text "u") (.text (List.replicate 33 'x')) ⟨limit, 32⟩
      fun _ => pure ()).run {}).1
    derived 42 = .ok ⟨"/data/u/a", "B7B82191A246D3563ED060E298ADD91D", .hashedName⟩ ∧
      derived 43 = .error (.failure (.fileNameTooLong (List.replicate 33 'x') 32)) := by
  intro derived
  have narrow : derived 42 =
      .ok ⟨"/data/u/a", "B7B82191A246D3563ED060E298ADD91D", .hashedName⟩ :=
    congrArg Prod.fst (Run.run_eq_of_toOption (by decide +kernel))
  have widened : Widened (.onHost ["a", "b"] (List.cons_ne_nil _ _))
      (.text (List.replicate 33 'x')) 42 32 (derived 42) (derived 43) :=
    widened_of_le (by decide) (fun _ _ => rfl) rfl
  obtain ⟨better, planned, -⟩ | ⟨name, ⟨⟩, -, refused⟩ := widened.planned _ narrow
  · have none : (derived 43).toOption = none := by decide +kernel
    rw [show derived 43 = .ok better from planned] at none
    cases none
  · exact ⟨narrow, refused⟩

/-! ## Names that are never too long -/

/-- A full path has no room for a file name that is too long, and a digest has room in the limit for
file names. -/
structure Budget.SparesNames (budget : Budget) : Prop where
  fullPath_le : budget.fullPath ≤ budget.fileName + 3
  digest_le : 32 ≤ budget.fileName

theorem Budget.sparesNames_standard : Budget.standard.SparesNames :=
  ⟨by decide, by decide⟩

section Names

variable {root : Value} {above : Text} {who : Identity} {s : Surroundings} {budget : Budget}

/-- A directory holds the slash at the top and a character of the identity. -/
theorem two_le_byteLength_directory (rooted : rootOf s.working root = .ok above) (who : Identity)
    (subPath : Text) : 2 ≤ Text.byteLength (directory above who.text subPath) := by
  obtain ⟨slashes, names, leading, named, rfl⟩ := rootOf_eq_ok rooted
  obtain ⟨c, rest, text⟩ := List.exists_cons_of_ne_nil who.isName.ne_nil
  have below : c ∈ Text.joinWith ['/'] (names ++ who.text :: Path.names subPath) :=
    Text.mem_joinWith_of_mem (List.mem_append_right _ List.mem_cons_self)
      (text ▸ List.mem_cons_self)
  have filled := List.length_pos_of_mem below
  refine Nat.le_trans ?_ (Text.length_le_byteLength _)
  rw [directory_eq_ofNames (Path.ne_zero_of_one_or_two leading) (Path.arePieces_of_isName named)
    who.isName, Path.ofNames, List.length_append, List.length_replicate]
  omega

/-- A name whose full path fits leaves room for the directory and a slash. -/
theorem byteLength_fileName_le (spares : budget.SparesNames)
    (rooted : rootOf s.working root = .ok above) {segments : List Text} {name : Text}
    {strategy : Strategy}
    (first : Target.firstFit? ⟨segments, above, who.text, name⟩ budget.fullPath = some strategy) :
    Text.byteLength (strategy.fileName name) ≤ budget.fileName := by
  have fits := (Target.firstFit?_eq_some_iff.1 first).1
  have narrow := spares.fullPath_le
  obtain rfl | digest := fileName_cases strategy name
  · have room := two_le_byteLength_directory rooted who (serverPath segments)
    simp only [Target.candidate, byteLength_fullPath, Target.directory] at fits
    omega
  · rw [digest, byteLength_digestName]
    exact spares.digest_le

/-- A path that is too long is all that can keep a plan from being chosen. -/
theorem failsOnly_choosePlan (spares : budget.SparesNames) (locator : Locator) (root : Value)
    (who : Identity) (fileName : Value) :
    (choosePlan locator root who fileName budget).FailsOnly (·.kind = .pathTooLong) := by
  rw [choosePlan]
  refine .bind .get fun s given _ here => ?_
  obtain rfl : s = given := Except.ok.inj (congrArg Prod.fst here)
  refine .bind (.ofMisuse _) fun _ above _ rooted => ?_
  have rooted := (Run.ofMisuse_eq_ok.1 rooted).1
  refine .bind (.ofMisuse _) fun _ name _ _ => .bind (.emitAll _) fun _ _ _ _ => ?_
  refine .ofFailure fun failure refused => ?_
  let target : Target := ⟨locator.path, above, who.text, name⟩
  have choice : (target.choice budget).result = .error failure := refused
  cases first : target.firstFit? budget.fullPath with
  | none =>
    rw [Target.result_of_not_firstFit? budget first] at choice
    cases choice
    rfl
  | some strategy =>
    have short := byteLength_fileName_le spares rooted first
    rw [Target.result_of_firstFit? budget first, if_neg (Int.not_lt.2 short)] at choice
    cases choice

end Names

end LocalPath
end SyncedFile
