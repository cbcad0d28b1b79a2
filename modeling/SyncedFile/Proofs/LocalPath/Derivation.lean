import SyncedFile.Proofs.Builder.Plans

/-!
# Deriving local paths

Every outcome of deriving the local path of a locator: the plan or the failure, the fallbacks that
are told, and the directory that is asked for. The plan that fits first decides about all of them.

* `Surroundings.told`, `Plan.ready` — the surroundings after fallbacks, and the last step of a plan;
* `derivePlan_run` — what deriving does once its arguments are in order;
* `FirstFit`, `firstFit_of_derivePlan` — the plan that fits first, or a failure that has left the
  directory alone;
* `keeps_of_derivePlan` — a plan keeps its budgets.
-/

namespace SyncedFile

/-- The surroundings in which fallbacks have been told. -/
def Surroundings.told (s : Surroundings) (fallbacks : List LocalPath.Fallback) : Surroundings :=
  { s with events := s.events ++ fallbacks.map LocalPath.Fallback.event }

theorem kind_of_checkOwnerIdentity {url : Text} {identity : Value} {failure : Failure}
    (refused : checkOwnerIdentity url identity = .error failure) :
    failure.kind = .missingIdentity ∨ failure.kind = .validation := by
  rw [checkOwnerIdentity] at refused
  split at refused
  · exact .inr (Identity.kind_of_check refused)
  · cases refused
    exact .inl rfl

namespace LocalPath

/-- The directory of a plan is asked for, once, and then the plan is there. -/
def Plan.ready (plan : Plan) (ensure : Text → Run Unit) : Run Plan := do
  Run.record (.ensureDirectory plan.directory)
  ensure plan.directory
  return plan

/-- What comes of a choice: its fallbacks are told, and its plan is made ready. -/
def Choice.outcome (choice : Choice) (ensure : Text → Run Unit) (s : Surroundings) :
    Except Fault Plan × Surroundings :=
  match choice.result with
  | .ok plan => (plan.ready ensure).run (s.told choice.fallbacks)
  | .error failure => (.error (.failure failure), s.told choice.fallbacks)

variable {locator : Locator} {root identity fileName : Value} {who : Identity} {above name : Text}
  {budget : Budget} {ensure : Text → Run Unit} {s t : Surroundings} {plan : Plan}
  {target : Target}

theorem Plan.ready_run (plan : Plan) (ensure : Text → Run Unit) (s : Surroundings) :
    (plan.ready ensure).run s =
      ((((ensure plan.directory).run
          { s with calls := s.calls ++ [.ensureDirectory plan.directory] }).1.map fun _ => plan),
        ((ensure plan.directory).run
          { s with calls := s.calls ++ [.ensureDirectory plan.directory] }).2) := by
  rw [ready, Run.bind_run, Run.record_run]
  simp only [Run.bind_run]
  rcases (ensure plan.directory).run _ with ⟨fault | ⟨⟩, after⟩
  · rfl
  · rfl

theorem choosePlan_run (rooted : rootOf s.working root = .ok above)
    (named : fileNameOf locator fileName = .ok name) :
    (choosePlan locator root who fileName budget).run s =
      ((choose locator.path above who.text name budget).result.mapError .failure,
        s.told (choose locator.path above who.text name budget).fallbacks) := by
  simp only [choosePlan, Run.bind_run, Run.get_run, rooted, named, Run.ofMisuse_ok_run,
    Run.emitAll_run]
  cases (choose locator.path above who.text name budget).result with
  | ok plan => rfl
  | error failure => rfl

theorem derivePlan_run (accepted : checkOwnerIdentity locator.url identity = .ok who)
    (rooted : rootOf s.working root = .ok above) (named : fileNameOf locator fileName = .ok name) :
    (derivePlan locator root identity fileName budget ensure).run s =
      (choose locator.path above who.text name budget).outcome ensure s := by
  have stages : preparePlan locator root who fileName budget ensure =
      choosePlan locator root who fileName budget >>= fun plan => plan.ready ensure :=
    preparePlan_eq_bind locator root who fileName budget ensure
  rw [derivePlan, accepted, Run.bind_run, Run.ofFailure_ok_run]
  simp only [stages, Run.bind_run (choosePlan _ _ _ _ _), choosePlan_run rooted named,
    Choice.outcome]
  cases (choose locator.path above who.text name budget).result with
  | ok plan => rfl
  | error failure => rfl

/-! ## The plan that fits first -/

/-- What deriving comes to for a target: the plan of the first place that fits, or a failure before
the directory is asked for. -/
structure FirstFit (target : Target) (budget : Budget) (ensure : Text → Run Unit)
    (s : Surroundings) (outcome : Except Fault Plan × Surroundings) : Prop where
  taken : ∀ strategy, target.firstFit? budget.fullPath = some strategy →
    Text.byteLength (strategy.fileName target.name) ≤ budget.fileName →
    outcome = ((target.plan strategy).ready ensure).run
      (s.told (target.fallbacks budget.fullPath strategy))
  /-- The directory is asked for once, if the collaborator does not ask for any itself. -/
  asked : ∀ strategy, target.firstFit? budget.fullPath = some strategy →
    Text.byteLength (strategy.fileName target.name) ≤ budget.fileName →
    (∀ directory, Run.Records (fun _ => False) (ensure directory)) →
    outcome.2.calls = s.calls ++ [.ensureDirectory (target.directory strategy)]
  hashedName : target.firstFit? budget.fullPath = some .hashedName →
    32 < Text.byteLength target.name
  nameTooLong : ∀ strategy, target.firstFit? budget.fullPath = some strategy →
    budget.fileName < Text.byteLength (strategy.fileName target.name) →
    outcome = (.error (.failure
        (.fileNameTooLong (strategy.fileName target.name) budget.fileName)),
      s.told (target.fallbacks budget.fullPath strategy))
  pathTooLong : (∀ strategy, budget.fullPath < Text.byteLength (target.candidate strategy)) →
    ∃ failure : Failure, failure.kind = .pathTooLong ∧
      failure.report.attributes = ([("full_path", .text (target.candidate .shortDirectory)),
        ("limit", .int budget.fullPath),
        ("length", .int (Text.byteLength (target.candidate .shortDirectory)))] :
          List (Text × Value)) ∧
      outcome = (.error (.failure failure),
        s.told (target.fallbacks budget.fullPath .shortDirectory))
  /-- A collaborator may fail in many ways, but a path that is too long is not found by it. -/
  pathTooLong_iff : (∀ directory u path limit,
      ((ensure directory).run u).1 ≠ .error (.failure (.pathTooLong path limit))) →
    ((∃ path limit, outcome.1 = .error (.failure (.pathTooLong path limit))) ↔
      ∀ strategy, budget.fullPath < Text.byteLength (target.candidate strategy))

theorem Plan.calls_ready (plan : Plan)
    (silent : ∀ directory, Run.Records (fun _ => False) (ensure directory)) (s : Surroundings) :
    ((plan.ready ensure).run s).2.calls = s.calls ++ [.ensureDirectory plan.directory] := by
  rw [ready_run]
  obtain ⟨made, calls, none⟩ := silent plan.directory
    { s with calls := s.calls ++ [.ensureDirectory plan.directory] }
  have nothing : made = [] := List.eq_nil_iff_forall_not_mem.2 none
  rw [calls, nothing, List.append_nil]

/-- A plan that is chosen can only fail as its collaborator fails. -/
theorem Plan.ready_ne_error (plan : Plan) {fault : Fault}
    (other : ∀ directory u, ((ensure directory).run u).1 ≠ .error fault) (s : Surroundings) :
    ((plan.ready ensure).run s).1 ≠ .error fault := by
  rw [ready_run]
  have own := other plan.directory { s with calls := s.calls ++ [.ensureDirectory plan.directory] }
  intro failed
  cases result : ((ensure plan.directory).run
      { s with calls := s.calls ++ [.ensureDirectory plan.directory] }).1 with
  | ok => simp only [result, Except.map, reduceCtorEq] at failed
  | error actual =>
    simp only [result, Except.map, Except.error.injEq] at failed
    exact own (failed ▸ result)

/-- The first place that fits decides about every outcome. -/
theorem firstFit_of_choose (target : Target) (budget : Budget) (ensure : Text → Run Unit)
    (s : Surroundings) :
    FirstFit target budget ensure s ((choose target.segments target.root target.identity
      target.name budget).outcome ensure s) := by
  rw [Target.choose_eq]
  cases first : target.firstFit? budget.fullPath with
  | none =>
    have all := Target.firstFit?_eq_none_iff.1 first
    refine {
      taken := fun strategy taken => ?_
      asked := fun strategy taken => ?_
      hashedName := fun taken => ?_
      nameTooLong := fun strategy taken => ?_
      pathTooLong := fun _ => ⟨_, rfl, rfl, rfl⟩
      pathTooLong_iff := fun _ => iff_of_true ⟨_, _, rfl⟩ all }
    all_goals
      rw [first] at taken
      cases taken
  | some strategy =>
    have fits := (Target.firstFit?_eq_some_iff.1 first).1
    have notAll : ¬∀ strategy, budget.fullPath < Text.byteLength (target.candidate strategy) :=
      fun all => Int.not_lt.2 fits (all strategy)
    have unique {other : Strategy} (taken : target.firstFit? budget.fullPath = some other) :
        strategy = other := Option.some.inj (first.symm.trans taken)
    simp only [Target.finish_eq]
    by_cases long : budget.fileName < Text.byteLength (strategy.fileName target.name)
    · rw [if_pos long]
      exact {
        taken := fun other taken fitting => absurd (unique taken ▸ fitting) (Int.not_le.2 long)
        asked := fun other taken fitting => absurd (unique taken ▸ fitting) (Int.not_le.2 long)
        hashedName := Target.lt_byteLength_of_hashedName
        nameTooLong := fun other taken _ => by
          obtain rfl := unique taken
          rfl
        pathTooLong := fun all => absurd all notAll
        pathTooLong_iff := fun _ => iff_of_false (fun ⟨_, _, failed⟩ => by cases failed) notAll }
    · rw [if_neg long]
      exact {
        taken := fun other taken _ => by
          obtain rfl := unique taken
          rfl
        asked := fun other taken _ silent => by
          obtain rfl := unique taken
          exact (target.plan strategy).calls_ready silent _
        hashedName := Target.lt_byteLength_of_hashedName
        nameTooLong := fun other taken longer => absurd (unique taken ▸ longer) long
        pathTooLong := fun all => absurd all notAll
        pathTooLong_iff := fun other => iff_of_false (fun ⟨path, limit, failed⟩ =>
          (target.plan strategy).ready_ne_error (fun directory u => other directory u path limit) _
            failed) notAll }

/-- Deriving a local path takes the first place that fits. Where the identity is refused, nothing is
told and no directory is asked for. -/
theorem firstFit_of_derivePlan (locator : Locator) (root identity fileName : Value)
    (budget : Budget) (ensure : Text → Run Unit) (s : Surroundings) :
    (∀ failure, checkOwnerIdentity locator.url identity = .error failure →
      (failure.kind = .missingIdentity ∨ failure.kind = .validation) ∧
      (derivePlan locator root identity fileName budget ensure).run s =
        (.error (.failure failure), s)) ∧
    ∀ who above name, checkOwnerIdentity locator.url identity = .ok who →
      rootOf s.working root = .ok above → fileNameOf locator fileName = .ok name →
      FirstFit ⟨locator.path, above, who.text, name⟩ budget ensure s
        ((derivePlan locator root identity fileName budget ensure).run s) := by
  constructor
  · intro failure refused
    refine ⟨kind_of_checkOwnerIdentity refused, ?_⟩
    rw [derivePlan, refused]
    rfl
  · intro who above name accepted rooted named
    rw [derivePlan_run accepted rooted named]
    exact firstFit_of_choose ⟨locator.path, above, who.text, name⟩ budget ensure s

/-- A name of 33 octets gives way to its digest where that just fits. -/
theorem firstFit_of_long_name :
    ∃ t, (derivePlan (.onHost ["a", "b"] (List.cons_ne_nil _ _)) (.text "/data") (.text "u")
        (.text (List.replicate 33 'x')) ⟨42, 32⟩ fun _ => pure ()).run {} =
          (.ok ⟨"/data/u/a", "B7B82191A246D3563ED060E298ADD91D", .hashedName⟩, t) ∧
      t.calls = [.ensureDirectory "/data/u/a"] ∧
      t.events = [Fallback.event ⟨.hashedName, "/data/u/a/" ++ List.replicate 33 'x', 42⟩] := by
  let target : Target := ⟨["a", "b"], "/data", "u", List.replicate 33 'x'⟩
  have plan : target.plan .hashedName =
      ⟨"/data/u/a", "B7B82191A246D3563ED060E298ADD91D", .hashedName⟩ := by decide +kernel
  have fallbacks : target.fallbacks 42 .hashedName =
      [⟨.hashedName, "/data/u/a/" ++ List.replicate 33 'x', 42⟩] := by decide +kernel
  have fit : FirstFit target _ _ _ _ :=
    (firstFit_of_derivePlan (.onHost ["a", "b"] (List.cons_ne_nil _ _)) (.text "/data") (.text "u")
      (.text (List.replicate 33 'x')) ⟨42, 32⟩ (fun _ => pure ()) {}).2 ⟨"u", by decide⟩ "/data"
      (List.replicate 33 'x') rfl rfl rfl
  have taken := fit.taken .hashedName (by decide +kernel) (by decide +kernel)
  rw [plan, fallbacks] at taken
  exact ⟨_, taken, rfl, rfl⟩

/-! ## Budgets of plans -/

/-- A plan that has been derived keeps both budgets, whatever its name was made from. -/
theorem keeps_of_derivePlan
    (given : (derivePlan locator root identity fileName budget ensure).run s = (.ok plan, t)) :
    ∃ name, fileNameOf locator fileName = .ok name ∧
      plan.Keeps budget (plan.strategy.fileName name) := by
  obtain ⟨who, slashes, above, name, -, -, -, -, named, chosen, -⟩ := chosen_of_derivePlan given
  exact ⟨name, named,
    Target.keeps_of_choose ⟨locator.path, Path.ofNames slashes above, who.text, name⟩ chosen⟩

/-- Characters of several octets and a forbidden one in a name that just keeps both budgets. -/
theorem keeps_of_wide_name :
    ∃ plan t, (derivePlan (.onHost ["a", "b"] (List.cons_ne_nil _ _)) (.text "/data") (.text "u")
        (.text "é:ß") ⟨15, 5⟩ fun _ => pure ()).run {} = (.ok plan, t) ∧
      plan.Keeps ⟨15, 5⟩ "é:ß" := by
  have given := Run.run_eq_of_toOption (s := {}) (a := ⟨"/data/u/a", "é_ß", .full⟩)
    (x := derivePlan (.onHost ["a", "b"] (List.cons_ne_nil _ _)) (.text "/data") (.text "u")
      (.text "é:ß") ⟨15, 5⟩ fun _ => pure ()) (by decide +kernel)
  obtain ⟨name, ⟨⟩, keeps⟩ := keeps_of_derivePlan given
  exact ⟨_, _, given, keeps⟩

end LocalPath
end SyncedFile
