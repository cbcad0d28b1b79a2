import SyncedFile.Proofs.Builder.Uses

/-!
# Builds that fail

A build that fails has not asked for a directory, or the collaborator that makes directories has
failed itself. There are two exceptions, as two checks come only after the directory: a path that
holds a NUL, and default modules that cannot stand in a set. The directory stays behind then.

* `Builder.Made.hashable` — modules that are set have been checked;
* `Builder.spoiler?`, `Builder.conclude_run` — what can go wrong after the directory;
* `Builder.directory_of_failed_build` — how a build can fail, and what it has asked for by then.
-/

namespace SyncedFile

/-! ## Modules that are set -/

theorem Value.unhashableIn?_eq_none {ms : List Value}
    (hashable : ∀ m ∈ ms, m.unhashable? = none) : Value.unhashableIn? ms = none := by
  induction ms with
  | nil => rfl
  | cons m rest ih =>
    rw [unhashableIn?, hashable m List.mem_cons_self,
      ih fun other mem => hashable other (List.mem_cons_of_mem _ mem)]
    rfl

theorem Options.hashable_of_checkModules {given ms : List Value}
    (accepted : checkModules given = .ok ms) : Value.unhashableIn? ms = none := by
  rw [checkModules_eq] at accepted
  split at accepted
  · cases accepted
  · next passed =>
    rw [← Except.ok.inj accepted]
    refine Value.unhashableIn?_eq_none fun m mem => ?_
    obtain ⟨given, present⟩ := List.mem_filter.1 mem
    simpa [present] using List.find?_eq_none.1 passed m given

namespace Builder

theorem Made.hashable {builder : Builder} (made : builder.Made) :
    ∀ ms ∈ builder.options.modules, Value.unhashableIn? ms = none := by
  induction made with
  | make given =>
    rw [eq_of_make given]
    exact nofun
  | set _ given ih =>
    obtain ⟨-, update, updates, rfl⟩ := eq_of_set given
    cases updates with
    | modules _ accepted =>
      -- Only this setting touches the modules, and it has checked each of them.
      rintro _ ⟨⟩
      exact Options.hashable_of_checkModules accepted
    | _ => exact ih

/-! ## After the directory -/

variable {builder : Builder} {s t : Surroundings} {prepared : Prepared}

/-- The kind of a default module that cannot stand in a set, where the default modules are used. -/
def unhashableDefault? (builder : Builder) : Option Text :=
  match builder.options.modules with
  | some _ => none
  | none => Value.unhashableIn? builder.defaults.schema

/-- What goes wrong with what has been settled once its directory is there. -/
def spoiler? (builder : Builder) (prepared : Prepared) : Option Misuse :=
  if '\x00' ∈ prepared.plan.fullPath then some .nulInPath
  else builder.unhashableDefault?.map .unhashable

theorem Settled.notMem_slash (settled : builder.Settled s prepared) :
    '/' ∉ prepared.plan.fileName := by
  obtain ⟨root, name, -, -, chosen⟩ := settled.plan
  rw [(LocalPath.choose_eq_ok chosen).2]
  exact LocalPath.notMem_slash_sanitize _

/-- The joined path holds a NUL if the full path does: all that they differ in is a slash. -/
theorem mem_join_iff {directory fileName : Text} (noSlash : '/' ∉ fileName) :
    '\x00' ∈ Path.join directory fileName ↔ '\x00' ∈ LocalPath.fullPath directory fileName := by
  have other : '\x00' ≠ '/' := by decide
  rw [Path.join, Path.isAbsolute_eq_false noSlash, if_neg Bool.false_ne_true, LocalPath.fullPath]
  split <;> simp [other]

/-- Modules that are set have been checked, so only default ones can be refused. -/
theorem schema_of_made (made : builder.Made) :
    builder.schema =
      match builder.unhashableDefault? with
      | some typeName => .error (.unhashable typeName)
      | none => .ok (Value.distinct (builder.options.modules.getD builder.defaults.schema)) := by
  rw [schema, unhashableDefault?]
  cases given : builder.options.modules with
  | some modules => rw [Option.getD_some, made.hashable modules given]
  | none =>
    cases hashable : Value.unhashableIn? builder.defaults.schema <;>
      simp only [Option.getD_none, hashable]

/-- Once the directory is there, a build either comes to a configuration or is spoiled. It leaves
the surroundings as they are. -/
theorem conclude_run (made : builder.Made) (settled : builder.Settled s prepared)
    (t : Surroundings) :
    match builder.spoiler? prepared with
    | some m => (builder.conclude prepared).run t = (.error (.misuse m), t)
    | none => ∃ built, (builder.conclude prepared).run t = (.ok built, t) := by
  have joined := @mem_join_iff prepared.plan.directory _ settled.notMem_slash
  -- The path is looked at before the modules, so a NUL is what is reported if both are wrong.
  by_cases nul : '\x00' ∈ prepared.plan.fullPath
  · have refused : canonicalPath t.tree prepared.plan.directory prepared.plan.fileName =
        .error .nulInPath := if_pos (joined.2 nul)
    rw [spoiler?, if_pos nul]
    simp only [conclude, Run.bind_run, Run.get_run, refused]
    rfl
  · have accepted : canonicalPath t.tree prepared.plan.directory prepared.plan.fileName =
        .ok (t.tree.canonical (Path.join prepared.plan.directory prepared.plan.fileName)) :=
      if_neg (mt joined.1 nul)
    have schema := schema_of_made made
    rw [spoiler?, if_neg nul]
    cases unhashable : builder.unhashableDefault? with
    | some typeName =>
      simp only [conclude, Run.bind_run, Run.get_run, accepted, schema, unhashable, Option.map_some]
      rfl
    | none =>
      refine ⟨(builder.configuration prepared
        (t.tree.canonical (Path.join prepared.plan.directory prepared.plan.fileName))
        (Value.distinct (builder.options.modules.getD builder.defaults.schema)), prepared.plan), ?_⟩
      simp only [conclude, Run.bind_run, Run.get_run, accepted, schema, unhashable]
      rfl

/-! ## The ways to fail -/

/-- The build fails before it asks for a directory. -/
def FailsBefore (builder : Builder) (s : Surroundings) (fault : Fault) : Prop :=
  ∃ t, builder.prepare.run s = (.error fault, t)

/-- What has been settled when the build asks for its directory, and the surroundings then. -/
def Asks (builder : Builder) (s : Surroundings) (prepared : Prepared) (asked : Surroundings) :
    Prop :=
  ∃ t, builder.prepare.run s = (.ok prepared, t) ∧
    asked = { t with calls := t.calls ++ [.ensureDirectory prepared.plan.directory] }

/-- A build stops before it asks for a directory, or leaves what the collaborator has made of the
surroundings: nothing that comes after the directory changes them. -/
theorem stops_or_asks (builder : Builder) (s : Surroundings) :
    (∃ fault, builder.prepare.run s = (.error fault, (builder.assemble.run s).2)) ∨
      ∃ prepared asked, builder.Asks s prepared asked ∧ (builder.assemble.run s).2 =
        ((builder.defaults.ensureDirectory prepared.plan.directory).run asked).2 := by
  have ends := ends_assemble builder s
  generalize builder.assemble.run s = outcome at ends
  cases ends with
  | before stopped => exact .inl ⟨_, stopped⟩
  | within first ready | spoiled first ready | built first ready =>
    rw [makeReady_run] at ready
    exact .inr ⟨_, _, ⟨_, first, rfl⟩, (congrArg Prod.snd ready).symm⟩

/-- The collaborator that makes directories fails, and the build with it. -/
def FailsWithin (builder : Builder) (s : Surroundings) (fault : Fault) : Prop :=
  ∃ prepared asked u, builder.Asks s prepared asked ∧
    (builder.defaults.ensureDirectory prepared.plan.directory).run asked = (.error fault, u)

/-- The build fails although its directory has been made ready. `left` are the surroundings
then. -/
def FailsAfter (builder : Builder) (s : Surroundings) (fault : Fault) (left : Surroundings) :
    Prop :=
  ∃ prepared asked, builder.Asks s prepared asked ∧
    (builder.defaults.ensureDirectory prepared.plan.directory).run asked = (.ok (), left) ∧
    ∃ m ∈ builder.spoiler? prepared, fault = .misuse m

theorem assemble_of_failsAfter {fault : Fault} (made : builder.Made)
    (late : builder.FailsAfter s fault t) : builder.assemble.run s = (.error fault, t) := by
  obtain ⟨prepared, asked, ⟨u, first, rfl⟩, ready, m, spoiled, rfl⟩ := late
  have last := conclude_run made (settled_of_prepare first).1 t
  rw [spoiled] at last
  rw [assemble_eq_bind, Run.bind_run, first]
  simp only [Run.bind_run, makeReady_run, ready]
  exact last

theorem assemble_eq_error_iff {fault : Fault} (made : builder.Made) :
    (builder.assemble.run s).1 = .error fault ↔
      builder.FailsBefore s fault ∨ builder.FailsWithin s fault ∨
        ∃ left, builder.FailsAfter s fault left := by
  constructor
  · intro result
    have failed : builder.assemble.run s = (.error fault, _) := Prod.ext result rfl
    rw [assemble_eq_bind, Run.bind_eq_error] at failed
    obtain early | ⟨prepared, u, first, failed⟩ := failed
    · exact .inl ⟨_, early⟩
    · rw [Run.bind_eq_error, makeReady_run] at failed
      obtain own | ⟨⟨⟩, left, ready, failed⟩ := failed
      · exact .inr (.inl ⟨prepared, _, _, ⟨u, first, rfl⟩, own⟩)
      · have last := conclude_run made (settled_of_prepare first).1 left
        split at last
        · next m spoiled =>
          rw [last] at failed
          obtain ⟨⟨⟩, -⟩ := Prod.mk.inj failed
          exact .inr (.inr ⟨left, prepared, _, ⟨u, first, rfl⟩, ready, m, spoiled, rfl⟩)
        · obtain ⟨built, last⟩ := last
          rw [last] at failed
          cases failed
  · rintro (⟨t, early⟩ | ⟨prepared, _, t, ⟨u, first, rfl⟩, own⟩ | ⟨left, late⟩)
    · rw [assemble_eq_bind, Run.bind_run, early]
    · rw [assemble_eq_bind, Run.bind_run, first]
      simp only [Run.bind_run, makeReady_run, own]
    · rw [assemble_of_failsAfter made late]

/-- A build fails as putting the configuration together fails. The event that closes it is no
call. -/
theorem build_of_fresh (fresh : builder.consumed = false) (s : Surroundings) :
    (∀ fault, (builder.build s).1 = .error fault ↔ (builder.assemble.run s).1 = .error fault) ∧
      (builder.build s).2.2.calls = (builder.assemble.run s).2.calls := by
  rw [build, if_neg (Bool.eq_false_iff.1 fresh)]
  simp only [finish_run]
  rcases builder.assemble.run s with ⟨(failure | m) | ⟨c, plan⟩, u⟩ <;> simp

/-- A build that fails has failed before it asked for a directory, or with the collaborator that
makes directories, or because what it has settled is spoiled: by a path that holds a NUL, or by
default modules that cannot stand in a set. In that case alone a directory stays behind that has
been made ready. -/
theorem directory_of_failed_build (made : builder.Made) (s : Surroundings) (fault : Fault) :
    ((builder.build s).1 = .error fault ↔
      builder.FailsBefore s fault ∨ builder.FailsWithin s fault ∨
        ∃ left, builder.FailsAfter s fault left) ∧
    (builder.FailsBefore s fault →
      ∃ calls, (builder.build s).2.2.calls = s.calls ++ calls ∧
        ∀ call ∈ calls, call.asksForDirectory = false) ∧
    (∀ left, builder.FailsAfter s fault left →
      builder.build s = (.error fault, { builder with consumed := true }, left)) := by
  obtain ⟨fails, calls⟩ := build_of_fresh made.fresh s
  refine ⟨(fails fault).trans (assemble_eq_error_iff made), ?_, ?_⟩
  · -- All calls that are on record have been made by the first stage.
    rintro ⟨t, early⟩
    have quiet := records_prepare builder s
    rw [early] at quiet
    rw [calls, assemble_eq_bind, Run.bind_run, early]
    exact quiet
  · -- A misuse leaves no event, so that the surroundings are those that the collaborator has left.
    intro left late
    have failed := assemble_of_failsAfter made late
    obtain ⟨prepared, asked, -, -, m, -, rfl⟩ := late
    rw [build, if_neg (Bool.eq_false_iff.1 made.fresh)]
    simp only [finish_run, failed]

/-- A default module that is a list cannot stand in a set, which comes to light only once the
directory has been made ready. -/
theorem directory_of_unhashable_default :
    let collaborator : Text → Run Unit := fun _ => pure ()
    let builder : Builder :=
      { ofIdentity "user42" with
        defaults := { root := .text "/data", schema := [.list [.text "bad"]]
                      ensureDirectory := collaborator } }
    let directory : Text := "/data/user42/user42"
    let owner : Owner := .fixed (.text "user42") (.bool true)
    let fault : Fault := .misuse (.unhashable "list")
    builder.Made ∧ builder.FailsAfter {} fault
        { calls := [.identityRead owner, .ensureDirectory directory] } ∧
      builder.build {} = (.error fault, { builder with consumed := true },
        { calls := [.identityRead owner, .ensureDirectory directory] }) := by
  intro collaborator builder directory owner fault
  have made : builder.Made := by
    have given : (Builder.make builder.owner (.text "realm://h/~/default") none
      builder.defaults).run {} = (.ok builder, _) := rfl
    exact .make given
  have late : builder.FailsAfter {} fault
      { calls := [.identityRead owner, .ensureDirectory directory] } :=
    ⟨_, _, ⟨_, rfl, rfl⟩, rfl, _, rfl, rfl⟩
  exact ⟨made, late, (directory_of_failed_build made {} fault).2.2 _ late⟩

end Builder
end SyncedFile
