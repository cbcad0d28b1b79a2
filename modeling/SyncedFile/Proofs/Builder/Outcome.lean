import SyncedFile.Proofs.Builder.Stages

/-!
# Builds that come to a configuration

What is known of a configuration that has been built: where each of its parts comes from.

* `built_of_assemble` — a configuration is put together from what has been settled;
* `Outcome` — the parts of a configuration;
* `outcome_of_build` — every build that comes to a configuration;
* `Builder.factory`, `Builder.chosen_of_build` — what it takes from options or defaults.
-/

namespace SyncedFile

namespace Builder

variable {builder : Builder} {s t : Surroundings} {c : Configuration}

/-- Where the parts of a configuration come from. `after` is the tree in which its directory has
been made ready. -/
structure Outcome (builder : Builder) (s : Surroundings) (after : FileTree) (c : Configuration) :
    Prop where
  remoteLocator : ∃ locator ∈ builder.locator, ∃ owner ∈ builder.owner,
    locator.resolve (owner.shown s) = .ok c.remoteLocator
  owner : builder.owner = some c.owner
  identity : c.owner.shown s = .text c.identity.text
  plan : ∃ root name plan, rootOf s.working builder.root = .ok root ∧
    fileNameOf c.remoteLocator.toLocator builder.options.fileName = .ok name ∧
    (LocalPath.choose c.remoteLocator.path root c.identity.text name .standard).result = .ok plan ∧
    c.directory = plan.directory ∧ c.fileName = plan.fileName
  ensured : ∃ before u, before.tree = s.tree ∧ u.tree = after ∧
    (builder.defaults.ensureDirectory c.directory).run before = (.ok (), u)
  canonicalPath : SyncedFile.canonicalPath after c.directory c.fileName = .ok c.canonicalPath

/-- A configuration is put together from what has been settled, in the tree in which its directory
has been made ready. -/
theorem built_of_assemble {plan : LocalPath.Plan}
    (given : builder.assemble.run s = (.ok (c, plan), t)) :
    ∃ prepared canonical schema, builder.Settled s prepared ∧
      c = builder.configuration prepared canonical schema ∧
      SyncedFile.canonicalPath t.tree c.directory c.fileName = .ok canonical ∧
      ∃ before, before.tree = s.tree ∧
        (builder.defaults.ensureDirectory c.directory).run before = (.ok (), t) := by
  have ends := ends_assemble builder s
  rw [given] at ends
  cases ends with
  | @built prepared _ _ canonical schema first ready resolved distinct =>
    obtain ⟨settled, tree⟩ := settled_of_prepare first
    rw [makeReady_run] at ready
    refine ⟨prepared, canonical, schema, settled, rfl, resolved, _, ?_, ready⟩
    exact tree

theorem outcome_of_assemble {plan : LocalPath.Plan}
    (given : builder.assemble.run s = (.ok (c, plan), t)) : builder.Outcome s t.tree c := by
  obtain ⟨prepared, canonical, schema, settled, rfl, canonicalEq, before, tree, ready⟩ :=
    built_of_assemble given
  obtain ⟨locator, located, resolves⟩ := settled.locator
  obtain ⟨root, name, rooted, named, chosen⟩ := settled.plan
  exact {
    remoteLocator := ⟨locator, located, prepared.owner, settled.owner, resolves⟩
    owner := settled.owner
    identity := settled.identity
    plan := ⟨root, name, prepared.plan, rooted, named, chosen, rfl, rfl⟩
    ensured := ⟨before, t, tree, rfl, ready⟩
    canonicalPath := canonicalEq }

/-- What a build that is not refused does: it puts the configuration together and leaves an event,
unless it ends in a misuse. -/
theorem finish_run (builder : Builder) (s : Surroundings) :
    builder.finish.run s =
      match builder.assemble.run s with
      | (.ok (c, plan), u) => (.ok c, { u with events := u.events ++ [builtEvent c plan] })
      | (.error (.failure failure), u) =>
        (.error (.failure failure), { u with events := u.events ++ [builder.failedEvent failure] })
      | (.error (.misuse m), u) => (.error (.misuse m), u) := by
  simp only [finish, tryCatch, tryCatchThe, MonadExceptOf.tryCatch, ExceptT.tryCatch, ExceptT.run,
    ExceptT.mk, bind, StateT.bind, ExceptT.bind, ExceptT.bindCont]
  rcases (builder.assemble : StateM Surroundings (Except Fault (Configuration × LocalPath.Plan))) s
    with ⟨(failure | m) | ⟨c, plan⟩, u⟩ <;> rfl

theorem finish_eq_ok (given : builder.finish.run s = (.ok c, t)) :
    ∃ plan u, builder.assemble.run s = (.ok (c, plan), u) ∧ t.tree = u.tree := by
  rw [finish_run] at given
  split at given
  · next built plan u assembled =>
    obtain ⟨same, rfl⟩ := Prod.mk.inj given
    obtain rfl := Except.ok.inj same
    exact ⟨plan, u, assembled, rfl⟩
  · cases given
  · cases given

theorem outcome_of_build (built : (builder.build s).1 = .ok c) :
    builder.Outcome s (builder.build s).2.2.tree c := by
  rw [build] at built ⊢
  split at built
  · cases built
  · next fresh =>
    rw [if_neg fresh]
    obtain ⟨plan, u, assembled, same⟩ := finish_eq_ok (Prod.ext built rfl)
    have outcome := outcome_of_assemble assembled
    rw [← same] at outcome
    exact outcome

/-! ## Options and defaults -/

/-- The factory for reactive streams: one that is set comes before the default one. -/
def factory (builder : Builder) : Value :=
  if !builder.options.reactiveFactory.isNull then builder.options.reactiveFactory
  else if builder.defaults.reactiveAvailable then builder.defaults.reactiveFactory
  else .null

theorem chooseFactory_fst (builder : Builder) (s : Surroundings) :
    (builder.chooseFactory.run s).1 = .ok builder.factory := by
  rw [chooseFactory, factory]
  split
  · rfl
  · split
    · next absent =>
      -- A default factory that is null is no factory, whether streams are available or not.
      have null : builder.defaults.reactiveFactory = .null := by
        cases given : builder.defaults.reactiveFactory <;> simp_all [Value.isNull]
      rw [null, ite_self]
      rfl
    · rfl

theorem factory_of_prepare {prepared : Prepared}
    (given : builder.prepare.run s = (.ok prepared, t)) : prepared.factory = builder.factory := by
  rw [prepare] at given
  split at given
  · split at given
    · simp only [Run.bind_eq_ok, Run.ofFailure_eq_ok] at given
      obtain ⟨_, _, -, identity, _, -, given⟩ := given
      split at given
      · exact absurd given Run.fail_ne_ok
      · simp only [settle, Run.bind_eq_ok, Run.ofFailure_eq_ok, Run.pure_eq_ok] at given
        obtain ⟨factory, _, asked, _, _, -, _, _, -, _, _, -, rfl, -⟩ := given
        exact Except.ok.inj ((congrArg Prod.fst asked).symm.trans (chooseFactory_fst builder _))
    · exact absurd given Run.fail_ne_ok
  · exact absurd given Run.fail_ne_ok

/-- What a configuration takes from the options of the builder or from its defaults. -/
structure Chosen (builder : Builder) (c : Configuration) : Prop where
  errorHandler : c.errorHandler = builder.errorHandler
  reactiveFactory : c.reactiveFactory = builder.factory
  schema : builder.schema = .ok c.schema

theorem chosen_of_assemble {plan : LocalPath.Plan}
    (given : builder.assemble.run s = (.ok (c, plan), t)) : builder.Chosen c := by
  have ends := ends_assemble builder s
  rw [given] at ends
  cases ends with
  | built first ready resolved distinct => exact ⟨rfl, factory_of_prepare first, distinct⟩

theorem chosen_of_build (built : (builder.build s).1 = .ok c) : builder.Chosen c := by
  rw [build] at built
  split at built
  · cases built
  · obtain ⟨plan, u, assembled, -⟩ := finish_eq_ok (Prod.ext built rfl)
    exact chosen_of_assemble assembled

end Builder
end SyncedFile
