import SyncedFile.Proofs.Builder.Uses

/-!
# Histories of settings

Settings may follow each other in any order, and those that are refused count for nothing. What an
option comes to depends only on the settings that are for it: the last of them that is accepted
decides, and if none is accepted the option stays unset.

* `Options.only`, `Options.ext_only` — the options one by one;
* `Options.attempt`, `Options.attemptAll` — settings that may be refused;
* `Options.only_attemptAll_filter` — an option sees its own settings only;
* `LastAccepted`, `NeverAccepted` — the setting that decides;
* `Builder.after_set` — a builder after settings;
* `Builder.buildWith` — a builder that is made, set and built.
-/

namespace SyncedFile

namespace Options

/-! ## One option -/

/-- The options with all of them unset but one. -/
def only (options : Options) : OptionKey → Options
  | .fileName => { fileName := options.fileName }
  | .directory => { directory := options.directory }
  | .encryptionKey => { encryptionKey := options.encryptionKey }
  | .schemaVersion => { schemaVersion := options.schemaVersion }
  | .modules => { modules := options.modules }
  | .reactiveFactory => { reactiveFactory := options.reactiveFactory }
  | .initialData => { initialData := options.initialData }
  | .durability => { durability := options.durability }
  | .errorHandler => { errorHandler := options.errorHandler }
  | .waitForInitialRemoteData => { waitForInitialRemoteData := options.waitForInitialRemoteData }
  | .readOnly => { readOnly := options.readOnly }
  | .deleteOnLogout => { deleteOnLogout := options.deleteOnLogout }

theorem ext_only {options others : Options} (same : ∀ key, options.only key = others.only key) :
    options = others := by
  have fileName := congrArg Options.fileName (same .fileName)
  have directory := congrArg Options.directory (same .directory)
  have encryptionKey := congrArg Options.encryptionKey (same .encryptionKey)
  have schemaVersion := congrArg Options.schemaVersion (same .schemaVersion)
  have modules := congrArg Options.modules (same .modules)
  have reactiveFactory := congrArg Options.reactiveFactory (same .reactiveFactory)
  have initialData := congrArg Options.initialData (same .initialData)
  have durability := congrArg Options.durability (same .durability)
  have errorHandler := congrArg Options.errorHandler (same .errorHandler)
  have waits := congrArg Options.waitForInitialRemoteData (same .waitForInitialRemoteData)
  have readOnly := congrArg Options.readOnly (same .readOnly)
  have deleteOnLogout := congrArg Options.deleteOnLogout (same .deleteOnLogout)
  cases options
  cases others
  simp only [only] at *
  simp only [*]

end Options

namespace Setting

/-- The setting is accepted, whatever has been staged before. -/
def Accepted (setting : Setting) : Prop :=
  ∃ update, setting.Updates update

namespace Updates

variable {setting : Setting} {update : Options → Options}

theorem only_update (updates : setting.Updates update) (options others : Options) :
    (update options).only setting.key = (update others).only setting.key := by
  cases updates <;> rfl

theorem only_update_of_ne (updates : setting.Updates update) {key : OptionKey}
    (other : setting.key ≠ key) (options : Options) :
    (update options).only key = options.only key := by
  cases updates <;> cases key <;> first | rfl | exact absurd rfl other

theorem set_eq_ok (updates : setting.Updates update) (options : Options) :
    options.set setting = .ok (update options) := by
  cases updates with
  | name truthy => exact if_pos truthy
  | directory present given => simp [Options.set, present, given]
  | encryptionKey given => simp [Options.set, Options.stage, given]
  | schemaVersion given => simp [Options.set, given]
  | modules present given => simp [Options.set, Options.stage, present, given]
  | initialData allowed => exact if_pos allowed
  | errorHandler callable => exact if_pos callable
  | _ => rfl

end Updates

end Setting

/-! ## Settings that may be refused -/

namespace Options

/-- The options after a setting that may be refused. -/
def attempt (options : Options) (setting : Setting) : Options :=
  match options.set setting with
  | .ok next => next
  | .error _ => options

/-- The options after settings, each of which may be refused. -/
def attemptAll (options : Options) (settings : List Setting) : Options :=
  settings.foldl attempt options

variable {setting : Setting} {settings : List Setting} {key : OptionKey} {options others : Options}

theorem attempt_of_updates {update : Options → Options} (updates : setting.Updates update)
    (options : Options) : options.attempt setting = update options := by
  rw [attempt, updates.set_eq_ok]

theorem attempt_of_not_accepted (refused : ¬ setting.Accepted) (options : Options) :
    options.attempt setting = options := by
  obtain ⟨update, updates, -⟩ | ⟨fault, -, result⟩ := set_cases setting
  · exact absurd ⟨update, updates⟩ refused
  · rw [attempt, result]

theorem only_attempt_of_ne (other : setting.key ≠ key) (options : Options) :
    (options.attempt setting).only key = options.only key := by
  by_cases accepted : setting.Accepted
  · obtain ⟨update, updates⟩ := accepted
    rw [attempt_of_updates updates, updates.only_update_of_ne other]
  · rw [attempt_of_not_accepted accepted]

theorem only_attempt_congr (same : options.only key = others.only key) (setting : Setting) :
    (options.attempt setting).only key = (others.attempt setting).only key := by
  by_cases own : setting.key = key
  · subst own
    by_cases accepted : setting.Accepted
    · obtain ⟨update, updates⟩ := accepted
      rw [attempt_of_updates updates, attempt_of_updates updates]
      exact updates.only_update options others
    · rw [attempt_of_not_accepted accepted, attempt_of_not_accepted accepted, same]
  · rw [only_attempt_of_ne own, only_attempt_of_ne own, same]

theorem only_attemptAll_filter (same : options.only key = others.only key)
    (settings : List Setting) :
    (options.attemptAll settings).only key =
      (others.attemptAll (settings.filter (·.key = key))).only key := by
  induction settings generalizing options others with
  | nil => exact same
  | cons setting settings ih =>
    by_cases own : setting.key = key
    · rw [List.filter_cons_of_pos (by simpa using own)]
      exact ih (only_attempt_congr same setting)
    · -- The option does not see the setting, which can be left out.
      rw [List.filter_cons_of_neg (by simpa using own)]
      exact ih ((only_attempt_of_ne own options).trans same)

end Options

/-! ## The setting that decides -/

/-- No setting for an option is accepted. -/
def NeverAccepted (settings : List Setting) (key : OptionKey) : Prop :=
  ∀ setting ∈ settings, setting.key = key → ¬ setting.Accepted

/-- The setting is the last for its option that is accepted. -/
structure LastAccepted (settings : List Setting) (setting : Setting) : Prop where
  accepted : setting.Accepted
  last : ∃ before later, settings = before ++ setting :: later ∧ NeverAccepted later setting.key

namespace Options

variable {setting : Setting} {settings : List Setting} {key : OptionKey}

/-- An option for which no setting is accepted stays as it is. -/
theorem only_attemptAll_of_neverAccepted (never : NeverAccepted settings key) (options : Options) :
    (options.attemptAll settings).only key = options.only key := by
  induction settings generalizing options with
  | nil => rfl
  | cons setting settings ih =>
    obtain ⟨first, later⟩ := List.forall_mem_cons.1 never
    refine (ih later (options.attempt setting)).trans ?_
    by_cases own : setting.key = key
    · rw [attempt_of_not_accepted (first own)]
    · exact only_attempt_of_ne own options

/-- The last setting that is accepted decides its option. -/
theorem only_attemptAll_of_lastAccepted (last : LastAccepted settings setting)
    {update : Options → Options} (updates : setting.Updates update) (options : Options) :
    (options.attemptAll settings).only setting.key = (update options).only setting.key := by
  obtain ⟨-, before, later, rfl, never⟩ := last
  have split : options.attemptAll (before ++ setting :: later) =
      ((options.attemptAll before).attempt setting).attemptAll later := by
    rw [attemptAll, List.foldl_append]
    rfl
  rw [split, only_attemptAll_of_neverAccepted never, attempt_of_updates updates]
  exact updates.only_update _ _

end Options

/-! ## Builders that are made, set and built -/

namespace Builder

theorem after_set {builder : Builder} (fresh : builder.consumed = false) (settings : List Setting)
    (s : Surroundings) :
    after (settings.map .set) (builder, s) =
      ({ builder with options := builder.options.attemptAll settings }, s) := by
  induction settings generalizing builder with
  | nil => rfl
  | cons setting settings ih =>
    -- A setting that is refused leaves the builder as it is, and the options of it.
    have first : (call (.set setting) (builder, s)).2 =
        ({ builder with options := builder.options.attempt setting }, s) := by
      rw [call, stage_run, set, if_neg (Bool.eq_false_iff.1 fresh), Options.attempt]
      cases builder.options.set setting <;> rfl
    rw [List.map_cons, after_cons, first]
    exact ih fresh

/-- What comes of a builder that is made for a raw identifier and built after settings. Those that
are refused are passed over. -/
def buildWith (owner : Option Owner) (raw : Value) (origin : Option Origin) (defaults : Defaults)
    (settings : List Setting) (s : Surroundings) : Except Fault Configuration :=
  match (Builder.make owner raw origin defaults).run s with
  | (.error fault, _) => .error fault
  | (.ok builder, t) =>
    let (builder, u) := after (settings.map .set) (builder, t)
    (builder.build u).1

/-- A builder that is made for an identifier that is a locator. Only its event shows how the
identifier was spelled. -/
theorem make_run_of_normalize {owner : Option Owner} {raw : Value} {origin : Option Origin}
    {locator : Locator} (given : Locator.normalize raw origin = .ok locator) (defaults : Defaults)
    (s : Surroundings) :
    (Builder.make owner raw origin defaults).run s =
      match owner.elim (.ok ()) Owner.check with
      | .error failure => (.error (.failure failure), s)
      | .ok () =>
        (.ok { owner := owner, locator := some locator, defaults := defaults },
          { s with events := s.events ++ [locator.normalizedEvent raw] }) := by
  have present : raw.isNull = false := by
    cases raw with
    | null => cases given
    | _ => rfl
  have rest (t : Surroundings) : (makeChecked owner raw origin defaults).run t =
      (.ok { owner := owner, locator := some locator, defaults := defaults },
        { t with events := t.events ++ [locator.normalizedEvent raw] }) := by
    rw [makeChecked, present, given]
    rfl
  rw [make_eq_bind, Run.bind_run]
  cases owner with
  | none => exact rest s
  | some owner =>
    rw [Option.elim_some]
    cases checked : owner.check with
    | error failure =>
      simp only [checked]
      rfl
    | ok _ =>
      simp only [checked]
      exact rest s

theorem tree_of_make {owner : Option Owner} {raw : Value} {origin : Option Origin}
    {defaults : Defaults} {builder : Builder} {s t : Surroundings}
    (given : (Builder.make owner raw origin defaults).run s = (.ok builder, t)) :
    t.tree = s.tree := by
  rw [make_eq_bind] at given
  obtain ⟨_, between, checked, rest⟩ := Run.bind_eq_ok.1 given
  have same : between = s := by
    cases owner with
    | none => exact (Run.pure_eq_ok.1 checked).2.symm
    | some owner => exact (Run.ofFailure_eq_ok.1 checked).2.symm
  rw [same, makeChecked] at rest
  split at rest
  · rw [(Run.pure_eq_ok.1 rest).2]
  · simp only [Run.bind_eq_ok, Run.ofFault_eq_ok, Run.emit_run, Run.pure_eq_ok] at rest
    obtain ⟨_, _, ⟨-, rfl⟩, _, _, ⟨⟩, -, rfl⟩ := rest
    rfl

end Builder
end SyncedFile
