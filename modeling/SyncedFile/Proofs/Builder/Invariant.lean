import SyncedFile.Proofs.Builder.Uses

/-!
# What holds of every configuration

Options are staged in any order and are held against each other only by the build. Whatever calls
have led to a configuration, it fits together: its options, its locator and its place on disk.

* `Configuration.Sound` — what holds of every configuration;
* `Builder.holds_after` — what settings keep holds after any calls;
* `Builder.sound_of_build` — every configuration that is built.
-/

namespace SyncedFile

/-- What holds of every configuration that is built for a root directory. -/
structure Configuration.Sound (c : Configuration) (root : Text) : Prop where
  /-- A read-only file waits for its remote data and has no initial data. -/
  readOnly : c.readOnly = true → c.waitForInitialRemoteData = true ∧ c.initialData = .null
  path : c.remoteLocator.path ≠ [] ∧
    ∀ segment ∈ c.remoteLocator.path, segment ∉ [Segment.placeholder, ['.'], ['.', '.'], []]
  fileName : ∀ character ∈ c.fileName, character ∉ LocalPath.forbidden
  length : Text.byteLength (LocalPath.fullPath c.directory c.fileName) ≤ 256
  absolute : Path.isAbsolute c.directory = true
  normal : Path.normalize c.directory = c.directory
  /-- The directory goes on from the root with the identity. -/
  identity : Path.slashes c.directory = Path.slashes root ∧
    Path.names root ++ [c.identity.text] <+: Path.names c.directory

/-- What is checked of a file that is read only. -/
theorem Options.checkReadOnly_eq_ok {options : Options} :
    options.checkReadOnly = .ok () ↔
      (options.readOnly = true →
        options.waitForInitialRemoteData = true ∧ options.initialData = .null) := by
  have absent : options.initialData.isNull = true ↔ options.initialData = .null := by
    cases options.initialData <;> simp [Value.isNull]
  rw [← absent, checkReadOnly]
  cases options.readOnly <;> cases options.initialData.isNull <;>
    cases options.waitForInitialRemoteData <;> simp

theorem Options.eq_int_of_versionNumber? {value : Value} {version : Nat}
    (given : versionNumber? value = some version) : value = .int version := by
  unfold versionNumber? at given
  split at given
  · next i =>
    split at given
    · next natural =>
      rw [← Option.some.inj given, Int.toNat_of_nonneg natural]
    · cases given
  · cases given

theorem EncryptionKey.eq_octets_of_check {value : Value} {key : EncryptionKey}
    (given : check value = .ok key) : ∃ kind, value = .octets kind key.bytes := by
  unfold check at given
  split at given
  · cases given
  · next kind bytes =>
    split at given
    · rw [← Except.ok.inj given]
      exact ⟨kind, rfl⟩
    · cases given
  · cases given

theorem Segment.notMem_of_isSegment {segment : Text} (relative : isRelative segment = false)
    (accepted : isSegment segment = true) :
    segment ∉ [placeholder, ['.'], ['.', '.'], []] := by
  intro mem
  simp only [List.mem_cons, List.not_mem_nil, or_false] at mem
  rcases mem with rfl | rfl | rfl | rfl
  · exact absurd accepted (by decide)
  · exact absurd relative (by decide)
  · exact absurd relative (by decide)
  · exact absurd accepted (by decide)

namespace Builder

variable {builder : Builder} {s t : Surroundings} {c : Configuration}

/-! ## What a build settles -/

theorem eq_configuration_of_build (built : (builder.build s).1 = .ok c) :
    ∃ prepared canonical schema, builder.Settled s prepared ∧
      c = builder.configuration prepared canonical schema := by
  rw [build] at built
  split at built
  · cases built
  · obtain ⟨plan, u, assembled, -⟩ := finish_eq_ok (Prod.ext built rfl)
    obtain ⟨prepared, canonical, schema, settled, eq, -⟩ := built_of_assemble assembled
    exact ⟨prepared, canonical, schema, settled, eq⟩

theorem sound_of_made (made : builder.Made) (built : (builder.build s).1 = .ok c) :
    ∃ root, rootOf s.working builder.root = .ok root ∧ c.Sound root := by
  have outcome := outcome_of_build built
  obtain ⟨root, name, plan, rooted, -, chosen, directoryEq, fileNameEq⟩ := outcome.plan
  have under := prefix_names_of_outcome outcome rooted
  obtain ⟨slashes, above, strategy, _, leading, rfl, -, directoryNames, directory, fileName, -⟩ :=
    directory_of_outcome made outcome rooted
  obtain ⟨prepared, canonical, schema, settled, eq⟩ := eq_configuration_of_build built
  refine ⟨_, rooted, ?_, ?_, ?_, ?_, ?_, ?_, under⟩
  · rw [eq]
    exact Options.checkReadOnly_eq_ok.1 settled.readOnly
  · refine ⟨c.remoteLocator.path_ne_nil, fun segment mem => ?_⟩
    obtain ⟨relative, accepted⟩ := (made.isRead outcome).segments segment mem
    exact Segment.notMem_of_isSegment relative accepted
  · intro character mem
    rw [fileName] at mem
    exact LocalPath.notMem_forbidden_of_mem_sanitize mem
  · -- The budget is kept by the sanitized name, too.
    have fits := LocalPath.byteLength_le_of_choose chosen
    rw [LocalPath.Plan.fullPath, ← directoryEq, ← fileNameEq] at fits
    exact Int.ofNat_le.1 fits
  · rw [directory]
    rcases leading with rfl | rfl <;> rfl
  · rw [directory, Path.normalize_ofNames leading directoryNames]

/-! ## What calls have staged -/

theorem holds_after {P : Builder → Prop} (start : P builder) {uses : List Use}
    (noBuild : .build ∉ uses)
    (keeps : ∀ setting, .set setting ∈ uses →
      ∀ before next, Builder.set before setting = .ok next → P before → P next)
    (s : Surroundings) : P (after uses (builder, s)).1 := by
  -- The builder is general, as every setting that is accepted gives another one.
  induction uses generalizing builder with
  | nil => exact start
  | cons use uses ih =>
    obtain ⟨notFirst, notLater⟩ := not_or.1 (mt List.mem_cons.2 noBuild)
    have later := fun setting mem => keeps setting (List.mem_cons_of_mem _ mem)
    cases use with
    | build => exact absurd rfl notFirst
    | set setting =>
      rw [after_cons, call, stage_run]
      cases result : builder.set setting with
      | ok next => exact ih (keeps setting List.mem_cons_self _ _ result start) notLater later
      | error fault => exact ih start notLater later

/-- The version and the key that are staged have been handed in. -/
structure Staged (uses : List Use) (options : Options) : Prop where
  schemaVersion : options.schemaVersion = 0 ∨
    .set (.schemaVersion (.int options.schemaVersion)) ∈ uses
  encryptionKey : ∀ key ∈ options.encryptionKey,
    ∃ kind, .set (.encryptionKey (.octets kind key.bytes)) ∈ uses

theorem staged_of_updates {uses : List Use} {setting : Setting} {update : Options → Options}
    (mem : .set setting ∈ uses) (updates : setting.Updates update) {options : Options}
    (staged : Staged uses options) : Staged uses (update options) := by
  cases updates with
  | schemaVersion given =>
    rw [Options.eq_int_of_versionNumber? given] at mem
    exact ⟨.inr mem, staged.encryptionKey⟩
  | encryptionKey given =>
    refine ⟨staged.schemaVersion, ?_⟩
    rintro _ ⟨⟩
    obtain ⟨kind, rfl⟩ := EncryptionKey.eq_octets_of_check given
    exact ⟨kind, mem⟩
  | _ => exact ⟨staged.schemaVersion, staged.encryptionKey⟩

/-- Every configuration that is built after any calls fits together. Its version is a number that
has been handed in and is not negative, and its key is one of 64 octets. -/
theorem sound_of_build {owner : Option Owner} {raw : Value} {origin : Option Origin}
    {defaults : Defaults}
    (given : (Builder.make owner raw origin defaults).run s = (.ok builder, t))
    (uses : List Use) (u v : Surroundings)
    (built : ((after uses (builder, u)).1.build v).1 = .ok c) :
    (∃ root, rootOf v.working (after uses (builder, u)).1.root = .ok root ∧ c.Sound root) ∧
      (c.schemaVersion = 0 ∨ .set (.schemaVersion (.int c.schemaVersion)) ∈ uses) ∧
      ∀ key ∈ c.encryptionKey, key.bytes.length = 64 ∧
        ∃ kind, .set (.encryptionKey (.octets kind key.bytes)) ∈ uses := by
  -- A build among the calls would have consumed the builder.
  have noBuild : .build ∉ uses := by
    intro build
    rw [Builder.build, if_pos (consumed_of_build build)] at built
    cases built
  have made : (after uses (builder, u)).1.Made :=
    holds_after (.make given) noBuild (fun _ _ _ _ accepted made => .set made accepted) u
  have staged : Staged uses (after uses (builder, u)).1.options := by
    refine holds_after (P := fun builder => Staged uses builder.options) ?_ noBuild ?_ u
    · rw [eq_of_make given]
      exact ⟨.inl rfl, fun key unset => by cases unset⟩
    · intro setting mem before next accepted staged
      obtain ⟨-, update, updates, rfl⟩ := eq_of_set accepted
      exact staged_of_updates mem updates staged
  obtain ⟨prepared, canonical, schema, -, eq⟩ := eq_configuration_of_build built
  have version : c.schemaVersion = (after uses (builder, u)).1.options.schemaVersion := by
    rw [eq, configuration]
  have key : c.encryptionKey = (after uses (builder, u)).1.options.encryptionKey := by
    rw [eq, configuration]
  rw [version, key]
  exact ⟨sound_of_made made built, staged.schemaVersion,
    fun key mem => ⟨key.length_bytes, staged.encryptionKey key mem⟩⟩

/-- A file that is read only, with a version that is accepted at the second attempt and a name that
is sanitized. -/
theorem sound_of_readOnly :
    let uses : List Use := [.set .readOnly, .set (.schemaVersion (.int (-1))),
      .set (.schemaVersion (.int 3)), .set (.name (.text "a:b")), .set .waitForInitialRemoteData]
    ∃ c, ((after uses (ofIdentity "user42", {})).1.build {}).1 = .ok c ∧ c.Sound "/data" ∧
      c.readOnly = true ∧ c.waitForInitialRemoteData = true ∧ c.schemaVersion = 3 ∧
      c.fileName = "a_b" := by
  intro uses
  have given : (Builder.make (some (.fixed (.text "user42") (.bool true)))
    (.text "realm://h/~/default") none { root := .text "/data" }).run {} =
      (.ok (ofIdentity "user42"), _) := rfl
  have shown : ((after uses (ofIdentity "user42", {})).1.build {}).1.toOption.map
      (fun c => (c.readOnly, c.waitForInitialRemoteData, c.schemaVersion, c.fileName)) =
      some (true, true, 3, ("a_b" : Text)) := by decide +kernel
  cases built : ((after uses (ofIdentity "user42", {})).1.build {}).1 with
  | error fault =>
    rw [built] at shown
    cases shown
  | ok c =>
    rw [built] at shown
    simp only [Except.toOption, Option.map_some, Option.some.injEq, Prod.mk.injEq] at shown
    obtain ⟨⟨root, rooted, sound⟩, -, -⟩ := sound_of_build given uses {} {} built
    obtain rfl : "/data" = root := Except.ok.inj rooted
    exact ⟨c, rfl, sound, shown⟩

end Builder
end SyncedFile
