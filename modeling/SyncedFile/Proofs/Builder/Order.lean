import SyncedFile.Proofs.Builder.Deterministic
import SyncedFile.Proofs.Builder.Exchange
import SyncedFile.Proofs.Builder.Failed
import SyncedFile.Proofs.Builder.History
import SyncedFile.Proofs.Locator.Key
import SyncedFile.Proofs.Value.Content

/-!
# The order of settings

It does not matter in which order settings for different options are made, nor in which order
modules are listed or how often. A build comes to the same configuration or to the same fault.

* `Reordered`, `Setting.Rearranged` — what is changed about the settings;
* `SameOutcome` — builds that come to the same;
* `Options.attemptAll_of_reordered`, `Options.sameButModules_attemptAll` — the staged options;
* `Builder.sameOutcome_of_reordered` — the build.
-/

namespace SyncedFile

/-! ## Settings in another order -/

/-- The settings in another order, in which those for one option follow each other as before. -/
structure Reordered (settings others : List Setting) : Prop where
  perm : settings.Perm others
  order : ∀ key, settings.filter (·.key = key) = others.filter (·.key = key)

/-- The setting with its modules in another order or listed more or less often. Absent modules do
not count. -/
inductive Setting.Rearranged : Setting → Setting → Prop where
  | refl (setting : Setting) : Rearranged setting setting
  | modules {base otherBase : Value} {more otherMore : List Value} (present : base.isNull = false)
      (otherPresent : otherBase.isNull = false)
      (hashable : ∀ m ∈ base :: more, m.unhashable? = none)
      (same : ∀ m, m.isNull = false → (m ∈ base :: more ↔ m ∈ otherBase :: otherMore)) :
      Rearranged (.modules base more) (.modules otherBase otherMore)

/-- Builds that come to the same: to configurations that agree in every field, with schemas of the
same modules, or to the same fault. -/
inductive SameOutcome : Except Fault Configuration → Except Fault Configuration → Prop where
  | configuration {c d : Configuration} (fields : d = { c with schema := d.schema })
      (schema : Value.sameElements c.schema d.schema = true) (equal : c.equals d = true) :
      SameOutcome (.ok c) (.ok d)
  | fault (fault : Fault) : SameOutcome (.error fault) (.error fault)

/-! ## Staged options -/

namespace Options

/-- Settings in another order stage the same options. -/
theorem attemptAll_of_reordered {settings others : List Setting}
    (reordered : Reordered settings others) (options : Options) :
    options.attemptAll settings = options.attemptAll others := by
  apply ext_only
  intro key
  rw [only_attemptAll_filter rfl settings, only_attemptAll_filter rfl others, reordered.order key]

/-- The options differ in their modules at most, and these are the same as far as sets go. -/
inductive SameButModules : Options → Options → Prop where
  | refl (options : Options) : SameButModules options options
  | modules (options : Options) {xs ys : List Value} (hashable : ∀ m ∈ xs, m.unhashable? = none)
      (same : ∀ m, m ∈ xs ↔ m ∈ ys) :
      SameButModules { options with modules := some xs } { options with modules := some ys }

/-- An accepted setting keeps options alike. -/
theorem SameButModules.update {setting : Setting} {update : Options → Options}
    (updates : setting.Updates update) {options others : Options}
    (alike : SameButModules options others) : SameButModules (update options) (update others) := by
  cases alike with
  | refl => exact .refl _
  | modules options hashable same =>
    have alikeAfter := SameButModules.modules (update options) hashable same
    cases updates with
    | modules => exact .refl _
    | _ => exact alikeAfter

theorem checkModules_eq_ok {ms : List Value} (hashable : ∀ m ∈ ms, m.unhashable? = none) :
    checkModules ms = .ok (ms.filter (!·.isNull)) := by
  have passed : refusedModule? ms = none :=
    List.find?_eq_none.2 fun m mem => by simp [hashable m mem]
  rw [checkModules_eq, passed]

theorem sameButModules_attempt {options others : Options} (alike : SameButModules options others)
    {setting rearranged : Setting} (modules : setting.Rearranged rearranged) :
    SameButModules (options.attempt setting) (others.attempt rearranged) := by
  cases modules with
  | refl =>
    by_cases accepted : setting.Accepted
    · obtain ⟨update, updates⟩ := accepted
      rw [attempt_of_updates updates, attempt_of_updates updates]
      exact alike.update updates
    · rw [attempt_of_not_accepted accepted, attempt_of_not_accepted accepted]
      exact alike
  | @modules base otherBase more otherMore present otherPresent hashable same =>
    have otherHashable : ∀ m ∈ otherBase :: otherMore, m.unhashable? = none := by
      intro m mem
      by_cases null : m.isNull = true
      · cases m with
        | null => rfl
        | _ => cases null
      · exact hashable m ((same m (Bool.eq_false_iff.2 null)).2 mem)
    rw [attempt_of_updates (.modules present (checkModules_eq_ok hashable)),
      attempt_of_updates (.modules otherPresent (checkModules_eq_ok otherHashable))]
    have kept : ∀ m ∈ (base :: more).filter (!·.isNull), m.unhashable? = none :=
      fun m mem => hashable m (List.mem_of_mem_filter mem)
    have members : ∀ m, m ∈ (base :: more).filter (!·.isNull) ↔
        m ∈ (otherBase :: otherMore).filter (!·.isNull) := by
      intro m
      simp only [List.mem_filter, Bool.not_eq_true']
      exact and_congr_left (same m)
    -- Whatever modules have been staged before, both settings replace them.
    cases alike with
    | refl => exact .modules options kept members
    | modules options => exact .modules options kept members

/-- Rearranging modules changes the staged modules at most, and not the set that they give. -/
theorem sameButModules_attemptAll {options others : Options}
    (alike : SameButModules options others) {settings rearranged : List Setting}
    (modules : List.Forall₂ Setting.Rearranged settings rearranged) :
    SameButModules (options.attemptAll settings) (others.attemptAll rearranged) := by
  induction modules generalizing options others with
  | nil => exact alike
  | cons first _ ih => exact ih (sameButModules_attempt alike first)

end Options

/-! ## Outcomes -/

theorem Owner.equals_self (owner : Owner) : owner.equals owner = true := by
  cases owner <;> simp [Owner.equals, Value.equals_self]

theorem Locator.equals_self (locator : Locator) : locator.equals locator = true := by
  simp [Locator.equals, Value.equals_self]

theorem Configuration.equals_of_schema (c : Configuration) {schema : List Value}
    (same : Value.sameElements c.schema schema = true) :
    c.equals { c with schema := schema } = true := by
  simp [Configuration.equals, same, Value.equals_self, Owner.equals_self, Locator.equals_self]

namespace SameOutcome

theorem of_schema (c : Configuration) {schema : List Value}
    (same : Value.sameElements c.schema schema = true) :
    SameOutcome (.ok c) (.ok { c with schema := schema }) :=
  .configuration rfl same (c.equals_of_schema same)

theorem refl (outcome : Except Fault Configuration) : SameOutcome outcome outcome := by
  cases outcome with
  | error fault => exact .fault fault
  | ok c => exact of_schema c (Value.sameElements_self c.schema)

end SameOutcome

namespace Builder

/-! ## Builders with the same options -/

theorem schema_of_modules (builder : Builder) {ms : List Value}
    (modules : builder.options.modules = some ms) (hashable : ∀ m ∈ ms, m.unhashable? = none) :
    builder.schema = .ok (Value.distinct ms) := by
  rw [schema, modules, Option.getD_some, Value.unhashableIn?_eq_none hashable]

theorem conclude_exchange_modules {builder : Builder} {modules : Option (List Value)}
    {xs ys : List Value} (schema : builder.schema = .ok xs)
    (otherSchema : (builder.exchange builder.options.encryptionKey modules).schema = .ok ys)
    (prepared : Prepared) :
    (builder.exchange builder.options.encryptionKey modules).conclude prepared =
      (fun built => ({ built.1 with schema := ys }, built.2)) <$> builder.conclude prepared := by
  simp only [conclude, schema, otherSchema, Run.ofMisuse, pure_bind, map_bind, map_pure]
  rfl

/-- A builder with other modules builds the same, if these give the same set. -/
theorem sameOutcome_of_sameModules (builder : Builder) {xs ys : List Value}
    (modules : builder.options.modules = some xs) (hashable : ∀ m ∈ xs, m.unhashable? = none)
    (same : ∀ m, m ∈ xs ↔ m ∈ ys) (s : Surroundings) :
    SameOutcome (builder.build s).1
      ((builder.exchange builder.options.encryptionKey (some ys)).build s).1 := by
  have otherHashable : ∀ m ∈ ys, m.unhashable? = none := fun m mem => hashable m ((same m).2 mem)
  have schema := schema_of_modules builder modules hashable
  have otherSchema := schema_of_modules
    (builder.exchange builder.options.encryptionKey (some ys)) rfl otherHashable
  rw [build_exchange (fun c => { c with schema := Value.distinct ys })
    (conclude_exchange_modules schema otherSchema) fun _ _ => rfl]
  cases built : (builder.build s).1 with
  | error fault => exact .fault fault
  | ok c =>
    apply SameOutcome.of_schema
    have own : Value.distinct xs = c.schema :=
      Except.ok.inj (schema.symm.trans (chosen_of_build built).schema)
    rw [← own]
    exact Value.sameElements_distinct hashable same

theorem sameOutcome_of_sameButModules (builder : Builder) {others : Options}
    (alike : Options.SameButModules builder.options others) (s : Surroundings) :
    SameOutcome (builder.build s).1 (({ builder with options := others }).build s).1 := by
  obtain ⟨owner, locator, defaults, staged, consumed⟩ := builder
  cases alike with
  | refl => exact .refl _
  | modules options hashable same =>
    exact sameOutcome_of_sameModules ⟨owner, locator, defaults, _, consumed⟩ rfl hashable same s

theorem sameOutcome_of_sameFiles {builder : Builder} (fresh : builder.consumed = false)
    (steady : ∀ owner ∈ builder.owner, owner.IsSteady)
    (deterministic : builder.defaults.IsDeterministic) {others : Options}
    (alike : Options.SameButModules builder.options others) {s t : Surroundings}
    (files : s.SameFiles t) :
    SameOutcome (builder.build s).1 (({ builder with options := others }).build t).1 := by
  rw [build_of_sameFiles fresh steady deterministic files]
  exact sameOutcome_of_sameButModules builder alike t

/-! ## The whole run -/

/-- Settings for different options can be made in any order, refused ones among them, and modules
can be listed in any order and more than once. If nothing else differs than the spelling of the raw
identifier, the build comes to the same configuration or to the same fault. -/
theorem sameOutcome_of_reordered {owner : Option Owner} {raw otherRaw : Value}
    {origin : Option Origin} {defaults : Defaults} (steady : ∀ o ∈ owner, o.IsSteady)
    (deterministic : defaults.IsDeterministic) {locator other : Locator}
    (given : Locator.normalize raw origin = .ok locator)
    (otherGiven : Locator.normalize otherRaw origin = .ok other)
    (equal : locator.equals other = true) {settings reordered rearranged : List Setting}
    (order : Reordered settings reordered)
    (modules : List.Forall₂ Setting.Rearranged reordered rearranged) {s t : Surroundings}
    (files : s.SameFiles t) :
    SameOutcome (buildWith owner raw origin defaults settings s)
      (buildWith owner otherRaw origin defaults rearranged t) := by
  -- The spelling of the identifier only shows in the event of the builder.
  obtain rfl := Locator.eq_of_equals_of_normalize given otherGiven equal
  rw [buildWith, buildWith, make_run_of_normalize given, make_run_of_normalize otherGiven]
  cases owner.elim (.ok ()) Owner.check with
  | error failure => exact .fault _
  | ok _ =>
    let fresh : Builder := { owner := owner, locator := some locator, defaults := defaults }
    -- Both lists stage the same options, apart from modules that give the same set.
    have alike := Options.sameButModules_attemptAll (.refl fresh.options) modules
    rw [← Options.attemptAll_of_reordered order] at alike
    have staged := @after_set fresh rfl
    simp only [fresh] at staged
    simp only [staged]
    exact @sameOutcome_of_sameFiles { fresh with options := fresh.options.attemptAll settings } rfl
      steady deterministic _ alike _ _ ⟨files.tree, files.readOnly⟩

/-- A version that is refused and one that is accepted keep their order, while the modules are moved
before them and listed differently. The scheme and the host are spelled differently, too. -/
theorem sameOutcome_of_swapped :
    let owner : Owner := .fixed (.text "user42") (.bool true)
    let defaults : Defaults := { root := .text "/data" }
    let first := buildWith owner (.text "realm://h/~/default") none defaults
      [.schemaVersion (.int (-1)), .modules (.text "cat") [.text "dog"], .schemaVersion (.int 3)] {}
    let second := buildWith owner (.text "REALM://H/~/default") none defaults
      [.modules (.text "dog") [.text "cat", .null, .text "dog"], .schemaVersion (.int (-1)),
        .schemaVersion (.int 3)] {}
    ∃ c d, first = .ok c ∧ second = .ok d ∧ c.equals d = true ∧ c.schemaVersion = 3 ∧
      c.schema.length = 2 := by
  intro owner defaults first second
  have steady : ∀ o ∈ some owner, o.IsSteady := by
    rintro _ ⟨⟩
    exact Owner.isSteady_fixed _ _
  have modules : Setting.Rearranged (.modules (.text "cat") [.text "dog"])
      (.modules (.text "dog") [.text "cat", .null, .text "dog"]) := by
    refine .modules rfl rfl ?_ ?_
    · simp [Value.unhashable?]
    · intro m present
      have notNull : m ≠ .null := by
        rintro rfl
        cases present
      simp [notNull, or_comm]
  have deterministic : defaults.IsDeterministic := fun path => sees_ensureDirectory (.text path)
  have same : SameOutcome first second :=
    sameOutcome_of_reordered steady deterministic rfl rfl (by decide +kernel)
      ⟨.swap _ _ _, fun key => by cases key <;> rfl⟩
      (.cons modules (.cons (.refl _) (.cons (.refl _) .nil))) ⟨rfl, rfl⟩
  have parts : first.toOption.map (fun c => (c.schemaVersion, c.schema.length)) = some (3, 2) := by
    decide +kernel
  obtain ⟨c, built, shown⟩ := Run.exists_ok_of_map parts
  rw [Prod.mk.injEq] at shown
  generalize second = other at same
  rw [built] at same
  cases same with
  | @configuration _ d fields schema equal => exact ⟨c, d, built, rfl, equal, shown⟩

end Builder
end SyncedFile
