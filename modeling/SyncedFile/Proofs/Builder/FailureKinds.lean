import SyncedFile.Proofs.Builder.Failed
import SyncedFile.Proofs.LocalPath.Budgets
import SyncedFile.Proofs.Locator.Placeholders

/-!
# Kinds of failures of a build

The failures that deriving a local path and building a configuration find by themselves are of a few
kinds. A file name that is too long is not among them, as a full path within the standard budget
has no room for one.

* `LocalPath.ownKinds`, `Builder.ownKinds` — the kinds;
* `failsOnly_derivePlan`, `Builder.failsOnly_assemble` — other failures are those of the collaborator;
* `Builder.kind_ne_fileNameTooLong` — no file name is too long for the standard budgets.
-/

namespace SyncedFile

/-- The kinds of the failures that deriving a local path finds by itself. -/
def LocalPath.ownKinds : List FailureKind :=
  [.missingIdentity, .validation, .pathTooLong]

section Deriving

variable {locator : Locator} {root identity fileName : Value} {budget : LocalPath.Budget}
  {ensure : Text → Run Unit} {allowed : Failure → Prop}

theorem kind_mem_of_checkOwnerIdentity {url : Text} {failure : Failure}
    (refused : checkOwnerIdentity url identity = .error failure) :
    failure.kind ∈ LocalPath.ownKinds := by
  rcases kind_of_checkOwnerIdentity refused with kind | kind <;> rw [kind] <;> decide

theorem failsOnly_derivePlan (spares : budget.SparesNames)
    (own : ∀ failure, failure.kind ∈ LocalPath.ownKinds → allowed failure)
    (ensured : ∀ directory, (ensure directory).FailsOnly allowed) :
    (derivePlan locator root identity fileName budget ensure).FailsOnly allowed := by
  have chosen (who : Identity) : (choosePlan locator root who fileName budget).FailsOnly allowed :=
    (LocalPath.failsOnly_choosePlan spares locator root who fileName).mono fun failure kind =>
      own failure (by rw [kind]; decide)
  rw [derivePlan]
  refine .bind (.ofFailure fun failure refused => ?_) fun _ who _ _ => ?_
  · exact own failure (kind_mem_of_checkOwnerIdentity refused)
  · rw [preparePlan_eq_bind]
    exact .bind (chosen who) fun _ plan _ _ => .bind (.record _) fun _ _ _ _ =>
      .bind (ensured plan.directory) fun _ _ _ _ => .pure plan

end Deriving

theorem failsOnly_ensureDirectory (path : Value) :
    (ensureDirectory path).FailsOnly (·.kind = .directoryCreation) := by
  rw [ensureDirectory]
  split
  · exact .ofMisuse (.error _)
  · refine .bind .get fun _ _ _ _ => .bind (.of_ok fun _ => ⟨(), rfl⟩) fun _ _ _ _ => ?_
    split
    · exact .ofMisuse (.error _)
    · exact .fail rfl
    · exact .of_ok fun _ => ⟨(), rfl⟩

theorem Options.kind_of_checkReadOnly {options : Options} {failure : Failure}
    (refused : options.checkReadOnly = .error failure) : failure.kind = .incompatibleOption := by
  rw [checkReadOnly] at refused
  split at refused
  · split at refused
    · cases refused
      rfl
    · split at refused
      · cases refused
        rfl
      · cases refused
  · cases refused

theorem Locator.kind_mem_of_resolve {locator : Locator} {identity : Value} {failure : Failure}
    (refused : locator.resolve identity = .error failure) : failure.kind ∈ LocalPath.ownKinds := by
  rcases kind_of_resolve refused with kind | kind <;> rw [kind] <;> decide

namespace Builder

def ownKinds : List FailureKind :=
  .missingRequiredField :: .incompatibleOption :: LocalPath.ownKinds

variable {builder : Builder} {allowed : Failure → Prop}

theorem failsOnly_chooseFactory (builder : Builder) : builder.chooseFactory.FailsOnly allowed :=
  .of_ok fun s => ⟨_, chooseFactory_fst builder s⟩

theorem failsOnly_settle (builder : Builder) (locator : Locator) (owner : Owner)
    (identity : Value) :
    (builder.settle locator owner identity).FailsOnly (·.kind ∈ LocalPath.ownKinds) := by
  rw [settle]
  refine .bind (failsOnly_chooseFactory builder) fun _ _ _ _ => ?_
  refine .bind (.ofFailure fun _ => Locator.kind_mem_of_resolve) fun _ resolved _ _ => ?_
  refine .bind (.ofFailure fun _ => kind_mem_of_checkOwnerIdentity) fun _ who _ _ => ?_
  refine .bind ?_ fun _ _ _ _ => .pure _
  exact (LocalPath.failsOnly_choosePlan LocalPath.Budget.sparesNames_standard _ _ who _).mono
    fun failure kind => by rw [kind]; decide

theorem failsOnly_prepare (builder : Builder) :
    builder.prepare.FailsOnly (·.kind ∈ ownKinds) := by
  rw [prepare]
  cases builder.locator with
  | none => exact .fail (by decide)
  | some locator =>
    cases builder.owner with
    | none => exact .fail (by decide)
    | some owner =>
      refine .bind (.ofFailure fun failure refused => ?_) fun _ _ _ _ => ?_
      · rw [Options.kind_of_checkReadOnly refused]
        decide
      · refine .bind (.of_ok fun s => ⟨_, congrArg Prod.fst (owner.readIdentity_run s)⟩)
          fun _ identity _ _ => ?_
        split
        · exact .fail (show FailureKind.missingIdentity ∈ ownKinds by decide)
        · exact (failsOnly_settle builder locator owner identity).mono fun _ kind =>
            List.mem_cons_of_mem _ (List.mem_cons_of_mem _ kind)

theorem failsOnly_assemble (own : ∀ failure, failure.kind ∈ ownKinds → allowed failure)
    (ensured : ∀ directory, (builder.defaults.ensureDirectory directory).FailsOnly allowed) :
    builder.assemble.FailsOnly allowed := by
  rw [assemble_eq_bind]
  refine .bind ((failsOnly_prepare builder).mono own) fun _ prepared _ _ => ?_
  refine .bind (.bind (.record _) fun _ _ _ _ => ensured prepared.plan.directory) fun _ _ _ _ => ?_
  exact .bind .get fun _ _ _ _ => .bind (.ofMisuse _) fun _ _ _ _ =>
    .bind (.ofMisuse _) fun _ _ _ _ => .pure _

theorem allowed_of_build {s : Surroundings} {failure : Failure}
    (consumed : allowed .builderConsumed)
    (own : ∀ failure, failure.kind ∈ ownKinds → allowed failure)
    (ensured : ∀ directory, (builder.defaults.ensureDirectory directory).FailsOnly allowed)
    (failed : (builder.build s).1 = .error (.failure failure)) : allowed failure := by
  cases fresh : builder.consumed with
  | true =>
    rw [build, if_pos fresh] at failed
    cases failed
    exact consumed
  | false =>
    exact failsOnly_assemble own ensured s failure (((build_of_fresh fresh s).1 _).1 failed)

/-- With the standard budgets no file name is too long, whatever a local path is derived for and
whatever a builder holds, unless the collaborator that makes directories says so. -/
theorem kind_ne_fileNameTooLong :
    (∀ (locator : Locator) (root identity fileName : Value) (ensure : Text → Run Unit),
      (∀ directory, (ensure directory).FailsOnly (·.kind ≠ .fileNameTooLong)) →
      (derivePlan locator root identity fileName ⟨256, 255⟩ ensure).FailsOnly
        (·.kind ≠ .fileNameTooLong)) ∧
    ∀ builder : Builder,
      (∀ directory, (builder.defaults.ensureDirectory directory).FailsOnly
        (·.kind ≠ .fileNameTooLong)) →
      ∀ s failure, (builder.build s).1 = .error (.failure failure) →
        failure.kind ≠ .fileNameTooLong := by
  have derived : ∀ kind ∈ LocalPath.ownKinds, kind ≠ .fileNameTooLong := by decide
  have built : ∀ kind ∈ ownKinds, kind ≠ .fileNameTooLong := by decide
  constructor
  · intro locator root identity fileName ensure ensured
    exact failsOnly_derivePlan LocalPath.Budget.sparesNames_standard
      (fun failure own => derived failure.kind own) ensured
  · intro builder ensured s failure failed
    exact allowed_of_build (by decide) (fun failure own => built failure.kind own) ensured failed

/-- A name of 300 characters is told to be too long as part of its path only. -/
theorem kind_ne_fileNameTooLong_of_long_root :
    let builder : Builder :=
      { ofIdentity "user42" with
        defaults := { root := .text ('/' :: List.replicate 220 'r') }
        options := { fileName := .text (List.replicate 300 'x') } }
    ∃ failure, (builder.build {}).1 = .error (.failure failure) ∧
      failure.kind = .pathTooLong ∧ failure.kind ≠ .fileNameTooLong := by
  intro builder
  have usual (directory : Text) : (builder.defaults.ensureDirectory directory).FailsOnly
      (·.kind ≠ .fileNameTooLong) :=
    (failsOnly_ensureDirectory (.text directory)).mono fun failure kind => by rw [kind]; decide
  let kind? (result : Except Fault Configuration) : Option FailureKind :=
    result.casesOn (fun fault => fault.casesOn (fun failure => some failure.kind) fun _ => none)
      fun _ => none
  have shown : kind? (builder.build {}).1 = some .pathTooLong := by decide +kernel
  cases result : (builder.build {}).1 with
  | ok c =>
    rw [result] at shown
    cases shown
  | error fault =>
    rw [result] at shown
    cases fault with
    | misuse m => cases shown
    | failure failure =>
      exact ⟨failure, rfl, Option.some.inj shown,
        kind_ne_fileNameTooLong.2 builder usual {} failure result⟩

end Builder
end SyncedFile
