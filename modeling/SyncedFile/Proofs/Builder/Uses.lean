import SyncedFile.Proofs.Builder.Isolation
import SyncedFile.Proofs.Builder.Settings

/-!
# Builders in use

Setters and builds are called on a builder in any order and with any arguments; a call that is
refused does not keep others from following it. Until the first build every setter stages its own
option or nothing at all. The first build consumes the builder, and from then on every call is
refused and does nothing.

* `Builder.eq_of_make`, `Builder.eq_of_set` — builders that are new or have accepted a setting;
* `Builder.Use`, `Builder.call`, `Builder.after` — calls of a builder, one after the other;
* `Builder.Called` — what a call can do to a builder that is not consumed;
* `Builder.called_of_fresh`, `Builder.call_of_consumed` — one call;
* `Builder.call_after` — a call after any others.
-/

namespace SyncedFile.Builder

/-! ## Builders and their settings -/

theorem eq_of_make {owner : Option Owner} {raw : Value} {origin : Option Origin}
    {defaults : Defaults} {builder : Builder} {s t : Surroundings}
    (given : (Builder.make owner raw origin defaults).run s = (.ok builder, t)) :
    builder = { owner := owner, locator := builder.locator, defaults := defaults } := by
  rw [make_eq_bind] at given
  obtain ⟨_, _, -, rest⟩ := Run.bind_eq_ok.1 given
  rw [makeChecked] at rest
  split at rest
  · obtain ⟨rfl, -⟩ := Run.pure_eq_ok.1 rest
    rfl
  · simp only [Run.bind_eq_ok, Run.pure_eq_ok] at rest
    obtain ⟨_, _, -, _, _, -, rfl, -⟩ := rest
    rfl

theorem eq_of_set {builder next : Builder} {setting : Setting}
    (given : builder.set setting = .ok next) :
    builder.consumed = false ∧ ∃ update, setting.Updates update ∧
      next = { builder with options := update builder.options } := by
  rw [set] at given
  split at given
  · cases given
  · next fresh =>
    refine ⟨Bool.eq_false_iff.2 fresh, ?_⟩
    obtain ⟨update, updates, accepted⟩ | ⟨fault, -, refused⟩ := Options.set_cases setting
    · rw [accepted] at given
      exact ⟨update, updates, (Except.ok.inj given).symm⟩
    · rw [refused] at given
      cases given

theorem Made.fresh {builder : Builder} (made : builder.Made) : builder.consumed = false := by
  induction made with
  | make given => rw [eq_of_make given]
  | set _ given ih =>
    obtain ⟨-, update, -, rfl⟩ := eq_of_set given
    exact ih

/-! ## Calls -/

/-- A call of a builder. -/
inductive Use where
  | set (setting : Setting)
  | build

/-- What a call comes to, with the builder and its surroundings as the call leaves them. -/
def call (use : Use) (state : Builder × Surroundings) :
    Except Fault (Option Configuration) × Builder × Surroundings :=
  match use with
  | .set setting =>
    let (result, builder) := (stage setting).run state.1
    (result.map fun _ => none, builder, state.2)
  | .build =>
    let (result, builder, s) := state.1.build state.2
    (result.map some, builder, s)

/-- The builder and its surroundings after some calls, whatever these have come to. -/
def after (uses : List Use) (state : Builder × Surroundings) : Builder × Surroundings :=
  uses.foldl (fun state use => (call use state).2) state

/-! ## One call -/

/-- What a call can do to a builder that is not consumed. -/
inductive Called (state : Builder × Surroundings) :
    Use → Except Fault (Option Configuration) × Builder × Surroundings → Prop where
  /-- A setter refuses its arguments, and nothing has changed. -/
  | refused {setting : Setting} {fault : Fault} (why : setting.Refuses fault) :
      Called state (.set setting) (.error fault, state)
  /-- A setter assigns its own option, whatever that has been, and nothing else. -/
  | staged {setting : Setting} {next : Options}
      (own : (state.1.options.without setting.key).set setting = .ok next)
      (others : next.without setting.key = state.1.options.without setting.key) :
      Called state (.set setting) (.ok none, { state.1 with options := next }, state.2)
  /-- A build consumes the builder, whatever it comes to. -/
  | built {result : Except Fault Configuration} {s : Surroundings} :
      Called state .build (result.map some, { state.1 with consumed := true }, s)

variable {state : Builder × Surroundings}

theorem call_of_consumed (consumed : state.1.consumed = true) (use : Use) :
    call use state = (.error (.failure .builderConsumed), state) := by
  cases use with
  | set setting =>
    rw [call, stage_run, set, if_pos consumed]
    rfl
  | build =>
    rw [call, build, if_pos consumed]
    rfl

theorem called_of_fresh (fresh : state.1.consumed = false) (use : Use) :
    Called state use (call use state) := by
  have notConsumed : ¬ state.1.consumed = true := Bool.eq_false_iff.1 fresh
  cases use with
  | set setting =>
    rw [call, stage_run, set, if_neg notConsumed]
    obtain ⟨update, updates, accepted⟩ | ⟨fault, why, refused⟩ := Options.set_cases setting
    · -- The same update is accepted by the options without the one that is set.
      rw [accepted]
      refine .staged ?_ (updates.without_update _)
      rw [accepted, updates.update_without]
    · rw [refused]
      exact .refused why
  | build =>
    rw [call, build, if_neg notConsumed]
    exact .built

/-! ## Calls after calls -/

theorem after_cons (use : Use) (uses : List Use) (state : Builder × Surroundings) :
    after (use :: uses) state = after uses (call use state).2 := rfl

theorem after_of_consumed (consumed : state.1.consumed = true) (uses : List Use) :
    after uses state = state := by
  induction uses with
  | nil => rfl
  | cons use uses ih => rw [after_cons, call_of_consumed consumed, ih]

theorem after_of_not_build (fresh : state.1.consumed = false) {uses : List Use}
    (noBuild : .build ∉ uses) :
    (after uses state).1.consumed = false ∧ (after uses state).2 = state.2 := by
  induction uses generalizing state with
  | nil => exact ⟨fresh, rfl⟩
  | cons use uses ih =>
    obtain ⟨notFirst, notLater⟩ := not_or.1 (mt List.mem_cons.2 noBuild)
    rw [after_cons]
    have first := called_of_fresh fresh use
    generalize call use state = outcome at first ⊢
    cases first with
    | refused => exact ih fresh notLater
    | staged => exact ih fresh notLater
    | built => exact absurd rfl notFirst

theorem consumed_of_build {uses : List Use} (build : .build ∈ uses) :
    (after uses state).1.consumed = true := by
  induction uses generalizing state with
  | nil => cases build
  | cons use uses ih =>
    by_cases consumed : state.1.consumed = true
    · -- An earlier build has consumed it already.
      rw [after_of_consumed consumed]
      exact consumed
    · rw [after_cons]
      cases build with
      | tail _ later => exact ih later
      | head =>
        have first := called_of_fresh (Bool.eq_false_iff.2 consumed) .build
        generalize call .build state = outcome at first ⊢
        cases first with
        | built => rw [after_of_consumed rfl]

theorem notMem_build_of_build {uses : List Use} {s : Surroundings} {c : Configuration}
    (built : ((after uses state).1.build s).1 = .ok c) : .build ∉ uses := by
  intro before
  rw [build, if_pos (consumed_of_build before)] at built
  cases built

/-- A builder can be used until its first build. Until then a setter stages its own option or
changes nothing, and only the build touches the surroundings. The build consumes the builder,
whatever it comes to. From then on every call is refused for that reason alone and changes
nothing. -/
theorem call_after {builder : Builder} (fresh : builder.consumed = false) (s : Surroundings)
    (uses : List Use) (use : Use) :
    (.build ∉ uses →
      (after uses (builder, s)).2 = s ∧
        Called (after uses (builder, s)) use (call use (after uses (builder, s)))) ∧
    (.build ∈ uses →
      call use (after uses (builder, s)) =
        (.error (.failure .builderConsumed), after uses (builder, s))) := by
  constructor
  · intro noBuild
    obtain ⟨stillFresh, same⟩ := @after_of_not_build (builder, s) fresh uses noBuild
    exact ⟨same, called_of_fresh stillFresh use⟩
  · intro build
    exact call_of_consumed (consumed_of_build build) use

/-- A file that is read only but does not wait for its data cannot be built. The builder is consumed
all the same, so that it does not even look at the empty name that it is given next. -/
theorem call_after_readOnly :
    let fresh := ofIdentity "alice"
    let staged := after [.set .readOnly] (fresh, {})
    let built := after [.set .readOnly, .build] (fresh, {})
    fresh.consumed = false ∧ Called staged .build (call .build staged) ∧
      (call .build staged).1 = .error (.failure (.readOnlyConflict .noRemoteData)) ∧
      call (.set (.name (.text []))) built = (.error (.failure .builderConsumed), built) := by
  have noBuild : Use.build ∉ [.set .readOnly] := nofun
  have build : Use.build ∈ [.set .readOnly, .build] := .tail _ (.head _)
  refine ⟨rfl, ?_, rfl, ?_⟩
  · exact ((call_after rfl {} _ .build).1 noBuild).2
  · exact (call_after rfl {} _ (.set (.name (.text [])))).2 build

end SyncedFile.Builder
