import SyncedFile.Proofs.Builder.Outcome

/-!
# Builds that depend on files only

A build reads the files and calls the collaborators. Where the owner shows the same identity each
time and the collaborator that makes directories goes by the files, nothing that has been called or
logged before makes a difference.

* `Owner.IsSteady`, `Defaults.IsDeterministic` — collaborators without a memory;
* `sees_ensureDirectory` — directories that are made in the usual way;
* `Builder.sees_prepare`, `Builder.sees_conclude`, `Builder.sees_assemble` — the stages of a build;
* `Builder.build_of_sameFiles` — the whole build.
-/

namespace SyncedFile

/-- The owner shows the same identity however often it is read. -/
def Owner.IsSteady (owner : Owner) : Prop :=
  ∀ reads others, owner.identityAfter reads = owner.identityAfter others

/-- What the collaborator that makes directories does depends on the files only. -/
def Defaults.IsDeterministic (defaults : Defaults) : Prop :=
  ∀ path, Run.SeesFiles (defaults.ensureDirectory path)

namespace Surroundings.SameFiles

variable {s t : Surroundings}

theorem working (files : s.SameFiles t) : s.working = t.working := by
  rw [Surroundings.working, Surroundings.working, files.tree]

end Surroundings.SameFiles

theorem Owner.isSteady_fixed (identity authenticated : Value) :
    (Owner.fixed identity authenticated).IsSteady :=
  fun _ _ => rfl

theorem sees_ensureDirectory (path : Value) : Run.SeesFiles (ensureDirectory path) := by
  rw [ensureDirectory]
  split
  · exact fun _ _ files => ⟨rfl, files⟩
  · next text _ =>
    intro s t files
    -- The tree that is left depends on the tree and on what cannot be written to.
    simp only [Run.bind_run, Run.get_run, files.tree, files.readOnly]
    rcases t.tree.prepareDirectory t.readOnly text with ⟨fault | why, tree⟩
    · exact ⟨rfl, rfl, rfl⟩
    · cases why with
      | refused errno => cases errno <;> exact ⟨rfl, rfl, rfl⟩
      | _ => exact ⟨rfl, rfl, rfl⟩

namespace Builder

variable {builder : Builder}

theorem sees_readIdentity {owner : Owner} (steady : owner.IsSteady) :
    Run.SeesFiles owner.readIdentity := by
  intro s t files
  have shown : owner.shown s = owner.shown t := steady _ _
  rw [Owner.readIdentity_run, Owner.readIdentity_run, shown]
  exact ⟨rfl, files.tree, files.readOnly⟩

theorem sees_chooseFactory (builder : Builder) : Run.SeesFiles builder.chooseFactory := by
  rw [chooseFactory]
  split
  · exact .pure _
  · split
    · exact .pure _
    · exact .bind (.record _) fun _ => .pure _

theorem sees_choosePlan (locator : Locator) (root : Value) (who : Identity) (fileName : Value)
    (budget : LocalPath.Budget) : Run.SeesFiles (choosePlan locator root who fileName budget) := by
  refine .get_bind (fun s => ?_) fun s t files => ?_
  · exact .bind (.ofMisuse _) fun _ => .bind (.ofMisuse _) fun _ => .bind (.emitAll _) fun _ =>
      .ofFailure _
  · simp only [files.working]

theorem sees_settle (builder : Builder) (locator : Locator) (owner : Owner) (identity : Value) :
    Run.SeesFiles (builder.settle locator owner identity) :=
  .bind (sees_chooseFactory builder) fun _ => .bind (.ofFailure _) fun _ =>
    .bind (.ofFailure _) fun _ => .bind (sees_choosePlan _ _ _ _ _) fun _ => .pure _

theorem sees_prepare (steady : ∀ owner ∈ builder.owner, owner.IsSteady) :
    Run.SeesFiles builder.prepare := by
  rw [prepare]
  cases builder.locator with
  | none => exact .fail _
  | some locator =>
    cases owned : builder.owner with
    | none => exact .fail _
    | some owner =>
      have reads := sees_readIdentity (steady owner owned)
      refine .bind (.ofFailure _) fun _ => .bind reads fun identity => ?_
      split
      · exact .fail _
      · exact sees_settle builder locator owner identity

theorem sees_makeReady (deterministic : builder.defaults.IsDeterministic) (directory : Text) :
    Run.SeesFiles (builder.makeReady directory) :=
  .bind (.record _) fun _ => deterministic directory

theorem sees_conclude (builder : Builder) (prepared : Prepared) :
    Run.SeesFiles (builder.conclude prepared) := by
  refine .get_bind (fun s => ?_) fun s t files => ?_
  · exact .bind (.ofMisuse _) fun _ => .bind (.ofMisuse _) fun _ => .pure _
  · simp only [files.tree]

theorem sees_assemble (steady : ∀ owner ∈ builder.owner, owner.IsSteady)
    (deterministic : builder.defaults.IsDeterministic) : Run.SeesFiles builder.assemble := by
  rw [assemble_eq_bind]
  exact .bind (sees_prepare steady) fun _ => .bind (sees_makeReady deterministic _) fun _ =>
    sees_conclude builder _

theorem build_eq_map_assemble (fresh : builder.consumed = false) (s : Surroundings) :
    (builder.build s).1 = (builder.assemble.run s).1.map Prod.fst := by
  rw [build, if_neg (Bool.eq_false_iff.1 fresh)]
  simp only [finish_run]
  rcases builder.assemble.run s with ⟨(failure | m) | ⟨c, plan⟩, t⟩ <;> rfl

theorem build_of_sameFiles (fresh : builder.consumed = false)
    (steady : ∀ owner ∈ builder.owner, owner.IsSteady)
    (deterministic : builder.defaults.IsDeterministic) {s t : Surroundings}
    (files : s.SameFiles t) : (builder.build s).1 = (builder.build t).1 := by
  rw [build_eq_map_assemble fresh, build_eq_map_assemble fresh,
    (sees_assemble steady deterministic files).1]

end Builder
end SyncedFile
