import SyncedFile.Proofs.Builder.Failed
import SyncedFile.Proofs.Locator.Placeholders

/-!
# The calls of a build

A build calls its collaborators in a fixed order, each at most once: the owner for its identity,
then the check for reactive streams if there is a default factory and no other, then the one that
makes the directory. What the owner has shown in that one read is the identity of all that is built,
even if the owner would show another one the next time.

* `Builder.CallsInOrder` — the calls of a build, and the identity that it has read;
* `Builder.callsInOrder` — every build keeps the order.
-/

namespace SyncedFile.Builder

variable {builder : Builder} {s : Surroundings} {c : Configuration}

/-! ## What is called -/

/-- Where something required is missing, or the options do not go together, a build stops at
once. -/
theorem prepare_of_unfit (unfit : builder.locator = none ∨ builder.owner = none ∨
    ∃ failure, builder.options.checkReadOnly = .error failure) (s : Surroundings) :
    ∃ fault, builder.prepare.run s = (.error fault, s) := by
  rw [prepare]
  cases located : builder.locator with
  | none => exact ⟨_, rfl⟩
  | some locator =>
    cases owned : builder.owner with
    | none => exact ⟨_, rfl⟩
    | some owner =>
      rw [located, owned] at unfit
      obtain ⟨failure, refused⟩ : ∃ failure, builder.options.checkReadOnly = .error failure := by
        simpa using unfit
      rw [refused]
      exact ⟨_, rfl⟩

theorem calls_of_asks {prepared : Prepared} {asked : Surroundings}
    (asks : builder.Asks s prepared asked) : asked.calls =
      s.calls ++ builder.earlyCalls ++ [.ensureDirectory prepared.plan.directory] := by
  obtain ⟨t, first, rfl⟩ := asks
  obtain ⟨made, calls, -, whole⟩ := follows_prepare builder s
  rw [first] at calls whole
  rw [← whole prepared rfl, ← calls]

/-! ## The order of calls -/

/-- The calls of a build, and the use of the identity that it reads. What the collaborator that
makes directories calls itself is its own affair. -/
structure CallsInOrder (builder : Builder) (s : Surroundings) : Prop where
  /-- A build makes its early calls in order, as far as it comes, and asks for a directory after all
  of them or not at all. -/
  order : (∃ made, made <+: builder.earlyCalls ∧
      (builder.build s).2.2.calls = s.calls ++ made) ∨
    ∃ prepared asked, builder.Asks s prepared asked ∧ asked.calls =
        s.calls ++ builder.earlyCalls ++ [.ensureDirectory prepared.plan.directory] ∧
      (builder.build s).2.2.calls =
        ((builder.defaults.ensureDirectory prepared.plan.directory).run asked).2.calls
  /-- Nothing is called where something required is missing or the options do not go together. -/
  silent : builder.locator = none ∨ builder.owner = none ∨
      (∃ failure, builder.options.checkReadOnly = .error failure) →
    (builder.build s).2.2.calls = s.calls
  /-- What the owner shows in the one read is the identity of the configuration, fills every
  placeholder, and is the first level of the directory under the root. -/
  identity : ∀ c, (builder.build s).1 = .ok c → ∃ locator ∈ builder.locator,
    ∃ owner ∈ builder.owner, ∃ root, rootOf s.working builder.root = .ok root ∧
      (owner.readIdentity.run s).1 = .ok (.text c.identity.text) ∧
      c.remoteLocator.Fills locator (.text c.identity.text) ∧
      Path.slashes c.directory = Path.slashes root ∧
      Path.names root ++ [c.identity.text] <+: Path.names c.directory

/-- Every build calls its collaborators in order, whatever its owner shows at other times. -/
theorem callsInOrder (builder : Builder) (s : Surroundings) : CallsInOrder builder s where
  order := by
    cases consumed : builder.consumed with
    | true => exact .inl ⟨[], List.nil_prefix, by rw [build, if_pos consumed, List.append_nil]⟩
    | false =>
      rw [(build_of_fresh consumed s).2]
      rcases stops_or_asks builder s with ⟨fault, stopped⟩ | ⟨prepared, asked, asks, left⟩
      · -- What stops a build on its way cuts the order off, too.
        obtain ⟨made, calls, partly, -⟩ := follows_prepare builder s
        rw [stopped] at calls
        exact .inl ⟨made, partly, calls⟩
      · exact .inr ⟨prepared, asked, asks, calls_of_asks asks, congrArg Surroundings.calls left⟩
  silent unfit := by
    cases consumed : builder.consumed with
    | true => rw [build, if_pos consumed]
    | false =>
      obtain ⟨fault, stopped⟩ := prepare_of_unfit unfit s
      rw [(build_of_fresh consumed s).2, assemble_eq_bind, Run.bind_run, stopped]
  identity c built := by
    -- All that a configuration is made of comes from the identity as it was read.
    have outcome := outcome_of_build built
    obtain ⟨locator, located, owner, owned, resolves⟩ := outcome.remoteLocator
    obtain ⟨root, -, -, rooted, -⟩ := outcome.plan
    obtain rfl : owner = c.owner := Option.some.inj (owned.symm.trans outcome.owner)
    have under := prefix_names_of_outcome outcome rooted
    rw [outcome.identity] at resolves
    refine ⟨locator, located, c.owner, owned, root, rooted, ?_, Locator.fills_of_resolve resolves,
      under.1, under.2⟩
    rw [Owner.readIdentity_run, outcome.identity]

/-- An owner that shows another identity at every read is read once. The second identity would only
show at the next read. -/
theorem callsInOrder_of_varying_owner :
    let owner : Owner := .varying "owner" [.text "alice", .text "bob"] (.bool true)
    let locator := Locator.onHost ["~", "a", "~"] (List.cons_ne_nil _ _)
    let builder : Builder :=
      { owner := some owner, locator := some locator
        defaults := { root := .text "/data", reactiveFactory := .text "factory"
                      ensureDirectory := fun _ => pure () } }
    ∃ c, (builder.build {}).1 = .ok c ∧ c.identity.text = "alice" ∧
      c.remoteLocator.Fills locator (.text "alice") ∧
      (builder.build {}).2.2.calls.map Call.asksForDirectory = [false, false, true] ∧
      (owner.readIdentity.run (builder.build {}).2.2).1 = .ok (.text "bob") := by
  intro owner locator builder
  have text : (builder.build {}).1.toOption.map (·.identity.text) = some "alice".toList := by
    decide +kernel
  obtain ⟨c, built, shown⟩ := Run.exists_ok_of_map text
  obtain ⟨given, located, -, -, -, -, -, fills, -⟩ := (callsInOrder builder {}).identity c built
  obtain rfl : locator = given := Option.some.inj located
  rw [shown] at fills
  have reads : (builder.build {}).2.2.readsOf "owner" = 1 := by decide +kernel
  refine ⟨c, built, shown, fills, by decide +kernel, ?_⟩
  rw [Owner.readIdentity_run]
  exact congrArg (fun n => Except.ok (owner.identityAfter n)) reads

end SyncedFile.Builder
