import SyncedFile.Proofs.Builder.Invariant
import SyncedFile.Proofs.Locator.WellFormed

/-!
# Reserved file names

The suffixes of the storage engine's own files are refused where a raw identifier is read, before an
identity takes the place of the placeholder. So a file that is named by its locator can have such a
suffix in one case only: the identity has it, and stands as the last segment.

* `Locator.not_isReserved_of_normalize` — last segments of locators that have been read;
* `Locator.lastSegment_of_resolve` — last segments of resolved locators;
* `Builder.isReserved_fileName_iff` — when a file that is named by its locator has such a suffix.
-/

namespace SyncedFile

/-- A name with a reserved suffix has been kept, as a digest has no extension. -/
theorem LocalPath.fileName_eq_self_of_isReserved {strategy : Strategy} {name : Text}
    (reserved : Segment.IsReserved (strategy.fileName name)) : strategy.fileName name = name := by
  obtain rfl | digest := fileName_cases strategy name
  · rfl
  · rw [digest] at reserved
    exact absurd reserved (Segment.not_isReserved_of_notMem_dot (notMem_dot_digestName name))

/-! ## Last segments -/

namespace Locator

theorem not_isReserved_of_normalize {raw : Value} {origin : Option Origin} {locator : Locator}
    (given : normalize raw origin = .ok locator) : ¬Segment.IsReserved locator.lastSegment := by
  obtain ⟨parts, accepted, rfl⟩ := accepted_of_normalize given
  exact accepted.not_isReserved

theorem lastSegment_of_resolve {locator : Locator} {identity : Text} {resolved : ResolvedLocator}
    (given : locator.resolve (.text identity) = .ok resolved) :
    resolved.lastSegment = fill identity locator.lastSegment := by
  rcases resolve_eq_ok given with ⟨who, same, rfl⟩ | ⟨-, absent, rfl⟩
  · rw [Value.text.inj same]
    exact List.getLast_map _
  · -- There is nothing to fill in.
    have named : resolved.lastSegment ≠ Segment.placeholder := fun same =>
      absent (same ▸ List.getLast_mem resolved.path_ne_nil)
    exact (if_neg named).symm

end Locator

namespace Builder

variable {builder : Builder} {s t : Surroundings} {after : FileTree} {c : Configuration}

/-- The last segment of the resolved locator is that of the locator, with the identity in place of
the placeholder. -/
theorem lastSegment_of_outcome (outcome : builder.Outcome s after c) {locator : Locator}
    (located : builder.locator = some locator) :
    c.remoteLocator.lastSegment = Locator.fill c.identity.text locator.lastSegment := by
  obtain ⟨given, mem, owner, owned, resolves⟩ := outcome.remoteLocator
  obtain rfl : given = locator := Option.some.inj (mem.symm.trans located)
  obtain rfl : owner = c.owner := Option.some.inj (owned.symm.trans outcome.owner)
  rw [outcome.identity] at resolves
  exact Locator.lastSegment_of_resolve resolves

/-- A file that is named by its locator has a reserved suffix only where its name is that of the
identity, in place of the placeholder. -/
theorem isReserved_fileName_iff_of_outcome (made : builder.Made)
    (unnamed : builder.options.fileName = .null) (outcome : builder.Outcome s after c)
    {raw : Value} {origin : Option Origin} {locator : Locator}
    (given : Locator.normalize raw origin = .ok locator) (located : builder.locator = some locator) :
    Segment.IsReserved c.fileName ↔
      locator.lastSegment = Segment.placeholder ∧ c.fileName = c.identity.text ∧
        Segment.IsReserved c.identity.text := by
  obtain ⟨strategy, named⟩ := fileName_of_unnamed made outcome unnamed
  have last := lastSegment_of_outcome outcome located
  constructor
  · intro reserved
    have kept : c.fileName = c.remoteLocator.lastSegment := by
      rw [named] at reserved ⊢
      exact LocalPath.fileName_eq_self_of_isReserved reserved
    -- The check has seen the last segment unless it has been filled in.
    by_cases filled : locator.lastSegment = Segment.placeholder
    · rw [last, Locator.fill, if_pos filled] at kept
      exact ⟨filled, kept, kept ▸ reserved⟩
    · rw [last, Locator.fill, if_neg filled] at kept
      exact absurd (kept ▸ reserved) (Locator.not_isReserved_of_normalize given)
  · rintro ⟨-, same, reserved⟩
    exact same ▸ reserved

/-- Whatever calls have led to a configuration, as long as none is for a name: its file name has a
reserved suffix exactly if the placeholder is the last segment of the locator and the identity in
its place is kept as the name and has such a suffix. -/
theorem isReserved_fileName_iff {owner : Option Owner} {raw : Value} {origin : Option Origin}
    {defaults : Defaults}
    (given : (Builder.make owner raw origin defaults).run s = (.ok builder, t)) {uses : List Use}
    (unnamed : ∀ fileName, .set (.name fileName) ∉ uses) {u v : Surroundings}
    (built : ((Builder.after uses (builder, u)).1.build v).1 = .ok c) :
    ∃ locator, Locator.normalize raw origin = .ok locator ∧
      (Segment.IsReserved c.fileName ↔
        locator.lastSegment = Segment.placeholder ∧ c.fileName = c.identity.text ∧
          Segment.IsReserved c.identity.text) := by
  have noBuild := notMem_build_of_build built
  have made : (Builder.after uses (builder, u)).1.Made :=
    holds_after (.make given) noBuild (fun _ _ _ _ accepted made => .set made accepted) u
  -- No call has touched the locator or the name.
  have kept : (Builder.after uses (builder, u)).1.locator = builder.locator ∧
      (Builder.after uses (builder, u)).1.options.fileName = .null := by
    refine holds_after (P := fun next => next.locator = builder.locator ∧
      next.options.fileName = .null) ⟨rfl, ?_⟩ noBuild ?_ u
    · rw [eq_of_make given]
    · rintro setting mem before next accepted ⟨located, null⟩
      obtain ⟨-, update, updates, rfl⟩ := eq_of_set accepted
      refine ⟨located, ?_⟩
      cases updates with
      | name => exact absurd mem (unnamed _)
      | _ => exact null
  have outcome := outcome_of_build built
  obtain ⟨locator, located, -⟩ := outcome.remoteLocator
  have read := locator_of_make given locator (kept.1 ▸ located)
  exact ⟨locator, read, isReserved_fileName_iff_of_outcome made kept.2 outcome read located⟩

/-- A builder for a file of an identity that is named for the identity itself. -/
def ofPlaceholder (identity : Text) (above : List Text) : Builder :=
  { ofIdentity identity with
    locator := some (Locator.onHost (above ++ [Segment.placeholder])
      (List.append_ne_nil_of_right_ne_nil _ (List.cons_ne_nil _ _))) }

/-- An identity with a reserved suffix stands as the name of a file, and settings other than that of
the name leave it there. -/
theorem isReserved_fileName_of_shared :
    let uses : List Use := [.set .inMemory]
    let builder := ofPlaceholder "user.realm" ["shared"]
    ∃ c, ((Builder.after uses (builder, {})).1.build {}).1 = .ok c ∧
      c.canonicalPath = "/data/user.realm/shared/user.realm" ∧ Segment.IsReserved c.fileName := by
  intro uses builder
  have given : (Builder.make builder.owner (.text "realm://h/shared/~") none
    builder.defaults).run {} = (.ok builder, _) := rfl
  have unnamed : ∀ fileName, .set (.name fileName) ∉ uses := fun fileName mem =>
    nomatch List.mem_singleton.1 mem
  let names (c : Configuration) : List Text := [c.fileName, c.identity.text, c.canonicalPath]
  have named : ((Builder.after uses (builder, {})).1.build {}).1.toOption.map names = some
      (["user.realm", "user.realm", "/data/user.realm/shared/user.realm"] : List Text) := by
    decide +kernel
  obtain ⟨c, built, parts⟩ := Run.exists_ok_of_map named
  obtain ⟨locator, read, reserved⟩ := isReserved_fileName_iff given unnamed built
  obtain rfl := Except.ok.inj read
  simp only [names, List.cons.injEq, and_true] at parts
  obtain ⟨fileName, identity, canonical⟩ := parts
  refine ⟨c, built, canonical, reserved.2 ⟨rfl, fileName.trans identity.symm, ?_⟩⟩
  rw [identity]
  decide

/-- A raw identifier that is accepted comes to a file with a reserved suffix, without a name having
been set. -/
theorem isReserved_fileName_of_placeholder :
    ∃ (builder : Builder) (t : Surroundings) (c : Configuration),
      (Builder.make (some (.fixed (.text "data.realm") (.bool true))) (.text "realm://h/~") none
        { root := .text "/data" }).run {} = (.ok builder, t) ∧
      (builder.build {}).1 = .ok c ∧ c.fileName = "data.realm" ∧ ".realm" <:+ c.fileName := by
  have given : (Builder.make (some (.fixed (.text "data.realm") (.bool true))) (.text "realm://h/~")
    none { root := .text "/data" }).run {} = (.ok (ofPlaceholder "data.realm" []), _) := rfl
  have named : ((ofPlaceholder "data.realm" []).build {}).1.toOption.map Configuration.fileName =
      some ("data.realm" : Text) := by
    decide +kernel
  obtain ⟨c, built, fileName⟩ := Run.exists_ok_of_map named
  refine ⟨_, _, c, given, built, fileName, ?_⟩
  rw [fileName]
  decide

end Builder
end SyncedFile
