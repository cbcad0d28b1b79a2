import SyncedFile.Proofs.Builder.Uses

/-!
# Options that a build only passes on

A build does not look at the encryption key, and at the modules only when it puts the configuration
together. Builders that differ in nothing else take the same steps and leave the same surroundings.

* `Builder.exchange` — a builder with another key and other modules;
* `Builder.build_exchange` — what it builds.
-/

namespace SyncedFile

theorem Run.map_run {α β : Type} (f : α → β) (x : Run α) (s : Surroundings) :
    (f <$> x).run s = ((x.run s).1.map f, (x.run s).2) := by
  rw [map_eq_pure_bind, Run.bind_run]
  rcases x.run s with ⟨fault | a, t⟩ <;> rfl

namespace Builder

/-- The builder with another key and other modules. -/
def exchange (builder : Builder) (key : Option EncryptionKey) (modules : Option (List Value)) :
    Builder :=
  { builder with options := { builder.options with encryptionKey := key, modules := modules } }

variable {builder : Builder} {key : Option EncryptionKey} {modules : Option (List Value)}

theorem prepare_exchange : (builder.exchange key modules).prepare = builder.prepare := rfl

theorem makeReady_exchange (directory : Text) :
    (builder.exchange key modules).makeReady directory = builder.makeReady directory := rfl

theorem assemble_exchange (change : Configuration → Configuration)
    (last : ∀ prepared, (builder.exchange key modules).conclude prepared =
      (fun built => (change built.1, built.2)) <$> builder.conclude prepared) :
    (builder.exchange key modules).assemble =
      (fun built => (change built.1, built.2)) <$> builder.assemble := by
  simp only [assemble_eq_bind, map_bind, prepare_exchange, makeReady_exchange, last]

theorem finish_exchange (change : Configuration → Configuration)
    (last : ∀ prepared, (builder.exchange key modules).conclude prepared =
      (fun built => (change built.1, built.2)) <$> builder.conclude prepared)
    (event : ∀ c plan, builtEvent (change c) plan = builtEvent c plan) :
    (builder.exchange key modules).finish = change <$> builder.finish := by
  refine funext fun s => ?_
  show (builder.exchange key modules).finish.run s = (change <$> builder.finish).run s
  rw [Run.map_run, finish_run, finish_run, assemble_exchange change last, Run.map_run]
  -- A failure is reported with the locator, which has not changed.
  rcases builder.assemble.run s with ⟨(failure | m) | ⟨c, plan⟩, t⟩
  · rfl
  · rfl
  · simp only [Except.map, event]

/-- The builder builds what it would have built, changed as the last step is. The surroundings do
not show the difference. -/
theorem build_exchange (change : Configuration → Configuration)
    (last : ∀ prepared, (builder.exchange key modules).conclude prepared =
      (fun built => (change built.1, built.2)) <$> builder.conclude prepared)
    (event : ∀ c plan, builtEvent (change c) plan = builtEvent c plan) (s : Surroundings) :
    (builder.exchange key modules).build s =
      ((builder.build s).1.map change, (builder.build s).2.1.exchange key modules,
        (builder.build s).2.2) := by
  have consumed : (builder.exchange key modules).consumed = builder.consumed := rfl
  by_cases refused : builder.consumed = true
  · rw [build, build, if_pos refused, if_pos (consumed.trans refused)]
    rfl
  · rw [build, build, if_neg refused, if_neg (consumed ▸ refused),
      finish_exchange change last event, Run.map_run]
    rfl

end Builder
end SyncedFile
