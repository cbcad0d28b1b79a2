import SyncedFile.Builder.Basic
import SyncedFile.Proofs.LocalPath.Layout
import SyncedFile.Proofs.Runs

/-!
# Plans of local paths

What is known where the local path of a locator has been derived.

* `rootOf_eq_ok` — the root directory in normal form;
* `choosePlan` — a plan without its directory;
* `choosePlan_eq_ok`, `preparePlan_eq_ok`, `derivePlan_eq_ok` — the steps to a plan;
* `chosen_of_derivePlan` — all that is known of a plan that has been derived.
-/

namespace SyncedFile

theorem isAbsolute_working (s : Surroundings) : Path.isAbsolute s.working = true := rfl

theorem rootOf_eq_ok {s : Surroundings} {value : Value} {root : Text}
    (given : rootOf s.working value = .ok root) :
    ∃ slashes above, (slashes = 1 ∨ slashes = 2) ∧ (∀ name ∈ above, Path.IsName name) ∧
      root = Path.ofNames slashes above := by
  unfold rootOf at given
  split at given
  · cases given
  · next t _ =>
    obtain rfl := Except.ok.inj given
    exact Path.absolute_eq_ofNames (isAbsolute_working s) t
  · cases given

theorem Identity.isName (identity : Identity) : Path.IsName identity.text :=
  Segment.isName identity.isRelative_text identity.isSegment_text

theorem eq_text_of_checkOwnerIdentity {url : Text} {value : Value} {identity : Identity}
    (accepted : checkOwnerIdentity url value = .ok identity) : value = .text identity.text := by
  rw [checkOwnerIdentity] at accepted
  split at accepted
  · exact Identity.eq_text_of_check accepted
  · cases accepted

variable {locator : Locator} {root value fileName : Value} {budget : LocalPath.Budget}
  {ensure : Text → Run Unit} {s t : Surroundings} {plan : LocalPath.Plan}

/-- The plan that is chosen for a locator, before its directory is asked for. -/
def choosePlan (locator : Locator) (root : Value) (who : Identity) (fileName : Value)
    (budget : LocalPath.Budget) : Run LocalPath.Plan := do
  let s ← get
  let root ← Run.ofMisuse (rootOf s.working root)
  let name ← Run.ofMisuse (fileNameOf locator fileName)
  let choice := LocalPath.choose locator.path root who.text name budget
  Run.emitAll (choice.fallbacks.map LocalPath.Fallback.event)
  Run.ofFailure choice.result

theorem preparePlan_eq_bind (locator : Locator) (root : Value) (who : Identity) (fileName : Value)
    (budget : LocalPath.Budget) (ensure : Text → Run Unit) :
    preparePlan locator root who fileName budget ensure = do
      let plan ← choosePlan locator root who fileName budget
      Run.record (.ensureDirectory plan.directory)
      ensure plan.directory
      return plan := by
  simp only [preparePlan, choosePlan, bind_assoc]

theorem choosePlan_eq_ok {who : Identity}
    (given : (choosePlan locator root who fileName budget).run s = (.ok plan, t)) :
    ∃ above name, rootOf s.working root = .ok above ∧ fileNameOf locator fileName = .ok name ∧
      (LocalPath.choose locator.path above who.text name budget).result = .ok plan ∧
      t.tree = s.tree := by
  rw [choosePlan] at given
  simp only [Run.bind_eq_ok, Run.get_run, Run.ofMisuse_eq_ok, Run.ofFailure_eq_ok,
    Run.emitAll_run] at given
  obtain ⟨_, _, ⟨⟩, above, _, ⟨rooted, rfl⟩, name, _, ⟨named, rfl⟩, _, _, ⟨⟩, chosen, rfl⟩ := given
  exact ⟨above, name, rooted, named, chosen, rfl⟩

theorem preparePlan_eq_ok {who : Identity}
    (given : (preparePlan locator root who fileName budget ensure).run s = (.ok plan, t)) :
    ∃ above name, rootOf s.working root = .ok above ∧ fileNameOf locator fileName = .ok name ∧
      (LocalPath.choose locator.path above who.text name budget).result = .ok plan ∧
      ∃ between, between.tree = s.tree ∧ (ensure plan.directory).run between = (.ok (), t) := by
  rw [preparePlan_eq_bind] at given
  simp only [Run.bind_eq_ok, Run.record_run, Run.pure_eq_ok] at given
  obtain ⟨_, _, planned, _, _, ⟨⟩, _, _, ready, rfl, rfl⟩ := given
  obtain ⟨above, name, rooted, named, chosen, tree⟩ := choosePlan_eq_ok planned
  refine ⟨above, name, rooted, named, chosen, _, ?_, ready⟩
  exact tree

theorem derivePlan_eq_ok
    (given : (derivePlan locator root value fileName budget ensure).run s = (.ok plan, t)) :
    ∃ who : Identity, value = .text who.text ∧
      (preparePlan locator root who fileName budget ensure).run s = (.ok plan, t) := by
  rw [derivePlan] at given
  obtain ⟨who, between, checked, rest⟩ := Run.bind_eq_ok.1 given
  obtain ⟨accepted, rfl⟩ := Run.ofFailure_eq_ok.1 checked
  exact ⟨who, eq_text_of_checkOwnerIdentity accepted, rest⟩

/-- A plan that has been derived is the one that is chosen under the root in normal form. Its
directory is the one that has been made ready. -/
theorem chosen_of_derivePlan
    (given : (derivePlan locator root value fileName budget ensure).run s = (.ok plan, t)) :
    ∃ (who : Identity) (slashes : Nat) (above : List Text) (name : Text),
      value = .text who.text ∧ (slashes = 1 ∨ slashes = 2) ∧ (∀ part ∈ above, Path.IsName part) ∧
      rootOf s.working root = .ok (Path.ofNames slashes above) ∧
      fileNameOf locator fileName = .ok name ∧
      (LocalPath.choose locator.path (Path.ofNames slashes above) who.text name budget).result =
        .ok plan ∧
      ∃ between, between.tree = s.tree ∧ (ensure plan.directory).run between = (.ok (), t) := by
  obtain ⟨who, identity, prepared⟩ := derivePlan_eq_ok given
  obtain ⟨normal, name, rooted, named, chosen, ready⟩ := preparePlan_eq_ok prepared
  obtain ⟨slashes, above, leading, names, rfl⟩ := rootOf_eq_ok rooted
  exact ⟨who, slashes, above, name, identity, leading, names, rooted, named, chosen, ready⟩

end SyncedFile
