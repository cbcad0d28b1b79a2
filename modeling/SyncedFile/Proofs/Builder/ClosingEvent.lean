import SyncedFile.Proofs.Builder.FailureKinds

/-!
# The closing event of a build

A build tells each fallback of its local path and then, once, what it has come to. The number of
fallbacks and the closing event agree with the outcome: with the strategy of the configuration, or
with the failure.

* `Run.Tells`, `Builder.tells_prepare` — the fallbacks that are told before the directory is asked
  for, and their choice;
* `Builder.Closes` — a closing event that agrees with an outcome;
* `Builder.closesOnce_of_build` — every build that returns or fails leaves one.
-/

namespace SyncedFile

open LocalPath (Choice Fallback Plan)

/-! ## Events of a run -/

namespace Run

variable {α β : Type}

/-- The run leaves no events. -/
def Quiet (x : Run α) : Prop :=
  ∀ s, (x.run s).2.events = s.events

/-- The run leaves the fallbacks of a choice and no other events. Its own result is that choice. -/
def Tells (planOf : α → Plan) (x : Run α) : Prop :=
  ∀ s, ∃ choice : Choice, choice.Counted ∧
    (x.run s).2.events = s.events ++ choice.fallbacks.map Fallback.event ∧
    (∀ a, (x.run s).1 = .ok a → choice.result = .ok (planOf a)) ∧
    ∀ failure, (x.run s).1 = .error (.failure failure) → choice.result = .error failure

theorem quiet_ofFailure (result : Except Failure α) : Quiet (ofFailure result) :=
  fun _ => by cases result <;> rfl

theorem quiet_ofMisuse (result : Except Misuse α) : Quiet (ofMisuse result) :=
  fun _ => by cases result <;> rfl

namespace Tells

variable {planOf : α → Plan}

theorem counted_of_kind {failure : Failure} (other : failure.kind ≠ .pathTooLong) :
    (⟨[], .error failure⟩ : Choice).Counted :=
  ⟨Nat.zero_le 2, nofun, by rintro _ ⟨⟩ kind; exact absurd kind other⟩

theorem fail {failure : Failure} (other : failure.kind ≠ .pathTooLong) :
    Tells planOf (fail failure : Run α) := by
  refine fun s => ⟨_, counted_of_kind other, (List.append_nil _).symm, fun a given => ?_, ?_⟩
  · cases given
  · rintro _ ⟨⟩
    rfl

theorem bind {x : Run β} {f : β → Run α} (quiet : Quiet x)
    (others : x.FailsOnly (·.kind ≠ .pathTooLong)) (next : ∀ b, Tells planOf (f b)) :
    Tells planOf (x >>= f) := by
  intro s
  have events := quiet s
  have others := others s
  rw [bind_run]
  rcases ran : x.run s with ⟨(failure | m) | b, between⟩ <;> rw [ran] at events others
  · refine ⟨_, counted_of_kind (others failure rfl), ?_, nofun, ?_⟩
    · exact events.trans (List.append_nil _).symm
    · rintro _ ⟨⟩
      rfl
  · -- A misuse is no failure, so that nothing is asked of the choice.
    have unrelated : Failure.builderConsumed.kind ≠ .pathTooLong := by decide
    exact ⟨_, counted_of_kind unrelated, events.trans (List.append_nil _).symm, nofun, nofun⟩
  · rw [← events]
    exact next b between

theorem map {x : Run β} {g : β → α} {plan : β → Plan} (tells : Tells plan x)
    (same : ∀ b, planOf (g b) = plan b) : Tells planOf (x >>= fun b => Pure.pure (g b)) := by
  intro s
  obtain ⟨choice, counted, events, returned, failed⟩ := tells s
  refine ⟨choice, counted, ?_⟩
  rw [bind_run]
  rcases ran : x.run s with ⟨fault | b, between⟩ <;> rw [ran] at events returned failed
  · refine ⟨events, nofun, ?_⟩
    rintro failure ⟨⟩
    exact failed failure rfl
  · refine ⟨events, ?_, nofun⟩
    rintro _ ⟨⟩
    rw [same]
    exact returned b rfl

/-- Fallbacks that are told before the result of their choice. -/
theorem choice {choice : Choice} (counted : choice.Counted) :
    Tells id (emitAll (choice.fallbacks.map Fallback.event) >>= fun _ =>
      ofFailure choice.result) := by
  intro s
  refine ⟨choice, counted, ?_⟩
  rw [bind_run, emitAll_run]
  cases choice.result with
  | error failure => exact ⟨rfl, nofun, by rintro _ ⟨⟩; rfl⟩
  | ok plan => exact ⟨rfl, by rintro _ ⟨⟩; rfl, nofun⟩

end Tells

end Run

/-! ## What is told before the directory -/

theorem tells_choosePlan (locator : Locator) (root : Value) (who : Identity) (fileName : Value)
    (budget : LocalPath.Budget) :
    Run.Tells id (choosePlan locator root who fileName budget) :=
  .bind (fun _ => rfl) .get fun _ => .bind (Run.quiet_ofMisuse _) (.ofMisuse _) fun _ =>
    .bind (Run.quiet_ofMisuse _) (.ofMisuse _) fun _ => .choice (LocalPath.counted_choose _ _ _ _ _)

namespace Builder

variable {builder : Builder} {s : Surroundings}

theorem quiet_chooseFactory (builder : Builder) : builder.chooseFactory.Quiet := by
  intro s
  rw [chooseFactory]
  split
  · rfl
  · split <;> rfl

theorem tells_settle (builder : Builder) (locator : Locator) (owner : Owner) (identity : Value) :
    Run.Tells Prepared.plan (builder.settle locator owner identity) := by
  -- The checks before the choice of a path have failures of other kinds.
  have other {failure : Failure}
      (kind : failure.kind = .missingIdentity ∨ failure.kind = .validation) :
      failure.kind ≠ .pathTooLong := by
    rcases kind with kind | kind <;> rw [kind] <;> decide
  rw [settle]
  refine .bind (quiet_chooseFactory builder) (failsOnly_chooseFactory builder) fun factory => ?_
  refine .bind (Run.quiet_ofFailure _)
    (.ofFailure fun _ refused => other (Locator.kind_of_resolve refused)) fun resolved => ?_
  refine .bind (Run.quiet_ofFailure _)
    (.ofFailure fun _ refused => other (kind_of_checkOwnerIdentity refused)) fun who => ?_
  exact .map (tells_choosePlan _ _ _ _ _) fun _ => rfl

/-- Before the directory is asked for, a build tells the fallbacks of its choice and nothing
else. -/
theorem tells_prepare (builder : Builder) : Run.Tells Prepared.plan builder.prepare := by
  rw [prepare]
  cases builder.locator with
  | none => exact .fail (by decide)
  | some locator =>
    cases builder.owner with
    | none => exact .fail (by decide)
    | some owner =>
      refine .bind (Run.quiet_ofFailure _) (.ofFailure fun failure refused => ?_) fun _ => ?_
      · rw [Options.kind_of_checkReadOnly refused]
        decide
      · refine .bind (fun s => congrArg (Surroundings.events ∘ Prod.snd) (owner.readIdentity_run s))
          (.of_ok fun s => ⟨_, congrArg Prod.fst (owner.readIdentity_run s)⟩) fun identity => ?_
        split
        · exact .fail (show FailureKind.missingIdentity ≠ .pathTooLong by decide)
        · exact tells_settle builder locator owner identity

/-! ## The closing event -/

/-- The event that closes a build agrees with what the build has come to, after so many
fallbacks. -/
structure Closes (builder : Builder) (s : Surroundings) (result : Except Fault Configuration)
    (fallbacks : List Fallback) (closing : Log.Event) : Prop where
  built_iff : closing.name = "configuration_built" ↔ ∃ c, result = .ok c
  failed_iff : closing.name = "build_failed" ↔ ∃ failure, result = .error (.failure failure)
  built : ∀ c, result = .ok c → ∃ strategy,
    LocalPath.Strategy.inOrder[fallbacks.length]? = some strategy ∧
      closing = .configurationBuilt (.text c.serverUrl) (.text c.canonicalPath)
        (.text strategy.name) (.bool c.readOnly)
  failed : ∀ failure, result = .error (.failure failure) →
    closing = .buildFailed ((builder.locator.map fun locator => Value.text locator.url).getD .null)
      failure.kind.name failure.line
  /-- A path is found to be too long after two fallbacks, unless it is the collaborator that finds
  it so. -/
  pathTooLong : ∀ failure, result = .error (.failure failure) → failure.kind = .pathTooLong →
    ¬builder.FailsWithin s (.failure failure) → fallbacks.length = 2

/-- What a build that returns or fails leaves: the fallbacks, what the collaborator that makes
directories adds if it is asked, and the closing event. -/
structure ClosesOnce (builder : Builder) (s : Surroundings) (fallbacks : List Fallback)
    (own left : Surroundings) (closing : Log.Event) : Prop where
  length_le : fallbacks.length ≤ 2
  told : own.events = s.events ++ fallbacks.map Fallback.event
  collaborator : left = own ∨ ∃ prepared, builder.Asks s prepared own ∧
    left = ((builder.defaults.ensureDirectory prepared.plan.directory).run own).2
  closed : (builder.build s).2.2.events = left.events ++ [closing]
  agrees : builder.Closes s (builder.build s).1 fallbacks closing

/-- The result of a build that has not been consumed, and its closing event. -/
theorem build_of_assemble (fresh : builder.consumed = false) :
    match builder.assemble.run s with
    | (.ok (c, plan), u) => (builder.build s).1 = .ok c ∧
        (builder.build s).2.2.events = u.events ++ [builtEvent c plan]
    | (.error (.failure failure), u) => (builder.build s).1 = .error (.failure failure) ∧
        (builder.build s).2.2.events = u.events ++ [builder.failedEvent failure]
    | (.error (.misuse m), _) => (builder.build s).1 = .error (.misuse m) := by
  rw [build, if_neg (Bool.eq_false_iff.1 fresh)]
  simp only [finish_run]
  rcases builder.assemble.run s with ⟨(failure | m) | ⟨c, plan⟩, u⟩
  · exact ⟨rfl, rfl⟩
  · rfl
  · exact ⟨rfl, rfl⟩

theorem closes_failed {failure : Failure} {fallbacks : List Fallback}
    (counted : failure.kind = .pathTooLong → ¬builder.FailsWithin s (.failure failure) →
      fallbacks.length = 2) :
    builder.Closes s (.error (.failure failure)) fallbacks (builder.failedEvent failure) := by
  have other : "build_failed".toList ≠ "configuration_built".toList := by decide
  refine ⟨?_, ?_, nofun, ?_, ?_⟩
  · exact iff_of_false other (by rintro ⟨c, ⟨⟩⟩)
  · exact iff_of_true rfl ⟨failure, rfl⟩
  · rintro _ ⟨⟩
    rfl
  · rintro _ ⟨⟩
    exact counted

theorem closes_built {c : Configuration} {plan : Plan} {fallbacks : List Fallback}
    (counted : LocalPath.Strategy.inOrder[fallbacks.length]? = some plan.strategy) :
    builder.Closes s (.ok c) fallbacks (builtEvent c plan) := by
  have other : "configuration_built".toList ≠ "build_failed".toList := by decide
  refine ⟨?_, ?_, ?_, nofun, nofun⟩
  · exact iff_of_true rfl ⟨c, rfl⟩
  · exact iff_of_false other (by rintro ⟨failure, ⟨⟩⟩)
  · rintro _ ⟨⟩
    exact ⟨plan.strategy, counted, rfl⟩

theorem exists_asks {prepared : Prepared} {t u : Surroundings} {result : Except Fault Unit}
    (first : builder.prepare.run s = (.ok prepared, t))
    (ready : (builder.makeReady prepared.plan.directory).run t = (result, u)) :
    ∃ own, builder.Asks s prepared own ∧ own.events = t.events ∧
      (builder.defaults.ensureDirectory prepared.plan.directory).run own = (result, u) := by
  rw [makeReady_run] at ready
  exact ⟨_, ⟨t, first, rfl⟩, rfl, ready⟩

/-- A build that has not been consumed, and that returns or fails, tells its fallbacks and then
closes with one event that agrees with its outcome. -/
theorem closesOnce_of_build (fresh : builder.consumed = false)
    (proper : ∀ m, (builder.build s).1 ≠ .error (.misuse m)) :
    ∃ fallbacks own left closing, builder.ClosesOnce s fallbacks own left closing := by
  have closing := build_of_assemble (s := s) fresh
  have ends := ends_assemble builder s
  -- The fallbacks are those of the choice before the directory, however the build ends.
  generalize builder.assemble.run s = outcome at closing ends
  obtain ⟨choice, counted, events, returned, failed⟩ := tells_prepare builder s
  cases ends with
  | @before fault t stopped =>
    rw [stopped] at events failed
    cases fault with
    | misuse m => exact absurd closing (proper m)
    | failure failure =>
      obtain ⟨result, closed⟩ := closing
      have agrees : builder.Closes s (.error (.failure failure)) choice.fallbacks _ :=
        closes_failed fun kind _ => counted.pathTooLong failure (failed failure rfl) kind
      exact ⟨choice.fallbacks, t, t, _, counted.length_le, events, .inl rfl, closed,
        result ▸ agrees⟩
  | @within prepared t u fault first refused =>
    rw [first] at events
    obtain ⟨own, asks, told, ran⟩ := exists_asks first refused
    -- The collaborator has failed, after it may have told events of its own.
    cases fault with
    | misuse m => exact absurd closing (proper m)
    | failure failure =>
      obtain ⟨result, closed⟩ := closing
      have agrees : builder.Closes s (.error (.failure failure)) choice.fallbacks _ :=
        closes_failed fun _ own => absurd ⟨prepared, _, u, asks, ran⟩ own
      exact ⟨choice.fallbacks, own, u, _, counted.length_le, told.trans events,
        .inr ⟨prepared, asks, (congrArg Prod.snd ran).symm⟩, closed, result ▸ agrees⟩
  | spoiled first ready => exact absurd closing (proper _)
  | @built prepared t u canonical schema first ready resolved distinct =>
    rw [first] at events returned
    obtain ⟨own, asks, told, ran⟩ := exists_asks first ready
    obtain ⟨result, closed⟩ := closing
    have agrees : builder.Closes s (.ok (builder.configuration prepared canonical schema))
        choice.fallbacks (builtEvent _ prepared.plan) :=
      closes_built (counted.strategy prepared.plan (returned prepared rfl))
    exact ⟨choice.fallbacks, own, u, _, counted.length_le, told.trans events,
      .inr ⟨prepared, asks, (congrArg Prod.snd ran).symm⟩, closed, result ▸ agrees⟩

/-- A name of 250 characters gives way to its digest, which is told once before the build is
closed. -/
theorem closesOnce_of_long_name :
    let builder : Builder :=
      { ofIdentity "user42" with
        defaults := { root := .text "/data", ensureDirectory := fun _ => pure () }
        options := { fileName := .text (List.replicate 250 'x') } }
    ∃ c fallbacks own left closing, (builder.build {}).1 = .ok c ∧
      builder.ClosesOnce {} fallbacks own left closing ∧ fallbacks.length = 1 ∧
      closing = .configurationBuilt (.text c.serverUrl) (.text c.canonicalPath)
        (.text "hashed_name") (.bool c.readOnly) := by
  intro builder
  have returns : (builder.build {}).1.toOption.map (·.readOnly) = some false := by decide +kernel
  obtain ⟨c, built, -⟩ := Run.exists_ok_of_map returns
  have proper (m : Misuse) : (builder.build {}).1 ≠ .error (.misuse m) := by
    rw [built]
    exact nofun
  obtain ⟨fallbacks, own, left, closing, closes⟩ := closesOnce_of_build rfl proper
  have same : left.events = own.events := by
    rcases closes.collaborator with rfl | ⟨prepared, -, rfl⟩ <;> rfl
  have count : fallbacks.length = 1 := by
    have events : (builder.build {}).2.2.events.length = 2 := by decide +kernel
    rw [closes.closed, same, closes.told, List.length_append, List.length_append,
      List.length_map] at events
    simpa using events
  obtain ⟨strategy, place, eq⟩ := closes.agrees.built c built
  rw [count] at place
  obtain rfl : .hashedName = strategy := Option.some.inj place
  exact ⟨c, fallbacks, own, left, closing, built, closes, count, eq⟩

end Builder
end SyncedFile
