import SyncedFile.Proofs.Builder.Plans

/-!
# The stages of a build

A build first settles all that can be settled without the directory, then has the directory made
ready, and then puts the configuration together.

* `Owner.shown`, `Owner.readIdentity_run` — the identity that an owner shows;
* `Builder.Prepared`, `Builder.prepare` — what is settled before the directory is asked for;
* `Builder.makeReady`, `Builder.conclude` — the directory, and what follows it;
* `Builder.assemble_eq_bind` — a build goes through these stages;
* `Builder.follows_prepare`, `Builder.settled_of_prepare` — the calls of the first stage, and what
  it settles;
* `Builder.Ends`, `Builder.ends_assemble` — how a build can end.
-/

namespace SyncedFile

/-- The call has a directory made ready. -/
def Call.asksForDirectory : Call → Bool
  | ensureDirectory _ => true
  | _ => false

/-- The identity that an owner shows the next time it is read. -/
def Owner.shown (owner : Owner) (s : Surroundings) : Value :=
  owner.identityAfter (match owner with
    | .varying name _ _ => s.readsOf name
    | _ => 0)

theorem Owner.readIdentity_run (owner : Owner) (s : Surroundings) :
    owner.readIdentity.run s =
      (.ok (owner.shown s), { s with calls := s.calls ++ [.identityRead owner] }) := by
  cases owner <;> rfl

namespace Builder

/-- What a build has settled before it asks for the directory. -/
structure Prepared where
  owner : Owner
  factory : Value
  resolved : ResolvedLocator
  identity : Identity
  plan : LocalPath.Plan

/-- What is settled with the identity that an owner has shown. -/
def settle (builder : Builder) (locator : Locator) (owner : Owner) (identity : Value) :
    Run Prepared := do
  let factory ← builder.chooseFactory
  let resolved ← Run.ofFailure (locator.resolve identity)
  let who ← Run.ofFailure (checkOwnerIdentity resolved.url identity)
  let plan ← choosePlan resolved.toLocator builder.root who builder.options.fileName .standard
  return ⟨owner, factory, resolved, who, plan⟩

/-- The steps of a build before the directory is asked for. -/
def prepare (builder : Builder) : Run Prepared := do
  let some locator := builder.locator | Run.fail (.missingField .url)
  let some owner := builder.owner | Run.fail (.missingField .owner)
  Run.ofFailure builder.options.checkReadOnly
  let identity ← owner.readIdentity
  if locator.hasPlaceholder && !identity.isTruthy then
    Run.fail (.missingIdentity locator.url .building)
  else
    builder.settle locator owner identity

/-- The directory is asked for, and that is put on record. -/
def makeReady (builder : Builder) (directory : Text) : Run Unit := do
  Run.record (.ensureDirectory directory)
  builder.defaults.ensureDirectory directory

def configuration (builder : Builder) (prepared : Prepared) (canonical : Text)
    (schema : List Value) : Configuration where
  directory := prepared.plan.directory
  fileName := prepared.plan.fileName
  canonicalPath := canonical
  encryptionKey := builder.options.encryptionKey
  schemaVersion := builder.options.schemaVersion
  schema := schema
  durability := builder.options.durability
  initialData := builder.options.initialData
  readOnly := builder.options.readOnly
  reactiveFactory := prepared.factory
  owner := prepared.owner
  identity := prepared.identity
  remoteLocator := prepared.resolved
  errorHandler := builder.errorHandler
  deleteOnLogout := builder.options.deleteOnLogout
  waitForInitialRemoteData := builder.options.waitForInitialRemoteData

/-- The steps of a build once the directory has been made ready. -/
def conclude (builder : Builder) (prepared : Prepared) : Run (Configuration × LocalPath.Plan) := do
  let s ← get
  let canonical ← Run.ofMisuse
    (canonicalPath s.tree prepared.plan.directory prepared.plan.fileName)
  let schema ← Run.ofMisuse builder.schema
  return (builder.configuration prepared canonical schema, prepared.plan)

theorem assemble_eq_bind (builder : Builder) :
    builder.assemble = builder.prepare >>= fun prepared =>
      builder.makeReady prepared.plan.directory >>= fun _ => builder.conclude prepared := by
  rw [assemble, prepare]
  cases builder.locator with
  | none => rfl
  | some locator =>
    cases builder.owner with
    | none => rfl
    | some owner =>
      simp only [preparePlan_eq_bind, settle, makeReady, conclude, configuration, bind_assoc,
        pure_bind, Run.fail_bind]
      refine congrArg _ (funext fun _ => congrArg _ (funext fun identity => ?_))
      split <;> simp only [bind_assoc, pure_bind, Run.fail_bind]

/-! ## Before the directory -/

/-- The build asks whether reactive streams are available: it has no factory, and there is a default
one. -/
def asksForStreams (builder : Builder) : Bool :=
  builder.options.reactiveFactory.isNull && !builder.defaults.reactiveFactory.isNull

/-- The calls that a build makes before it asks for the directory. -/
def earlyCalls (builder : Builder) : List Call :=
  match builder.owner with
  | none => []
  | some owner => .identityRead owner :: if builder.asksForStreams then [.reactiveCheck] else []

theorem follows_readIdentity (owner : Owner) :
    Run.Follows [.identityRead owner] owner.readIdentity :=
  .bind .get fun _ => .bind (.record _) fun _ => .pure _

theorem follows_chooseFactory (builder : Builder) :
    Run.Follows (if builder.asksForStreams then [.reactiveCheck] else [])
      builder.chooseFactory := by
  rw [chooseFactory, asksForStreams]
  cases builder.options.reactiveFactory.isNull with
  | false => exact .pure _
  | true =>
    cases builder.defaults.reactiveFactory.isNull with
    | true => exact .pure _
    | false => exact .bind (.record _) fun _ => .pure _

theorem follows_choosePlan (locator : Locator) (root : Value) (who : Identity) (fileName : Value)
    (budget : LocalPath.Budget) :
    Run.Follows [] (choosePlan locator root who fileName budget) :=
  .bind .get fun _ => .bind (.ofMisuse _) fun _ => .bind (.ofMisuse _) fun _ =>
    .bind (.emitAll _) fun _ => .ofFailure _

theorem follows_settle (builder : Builder) (locator : Locator) (owner : Owner) (identity : Value) :
    Run.Follows (if builder.asksForStreams then [.reactiveCheck] else [])
      (builder.settle locator owner identity) :=
  .bind_silent (follows_chooseFactory builder) fun _ => .bind (.ofFailure _) fun _ =>
    .bind (.ofFailure _) fun _ => .bind (follows_choosePlan _ _ _ _ _) fun _ => .pure _

theorem follows_prepare (builder : Builder) : Run.Follows builder.earlyCalls builder.prepare := by
  rw [prepare, earlyCalls]
  cases builder.locator with
  | none => exact .fail _
  | some locator =>
    cases builder.owner with
    | none => exact .fail _
    | some owner =>
      refine .bind (.ofFailure _) fun _ => .bind (follows_readIdentity owner) fun identity => ?_
      split
      · exact .fail _
      · exact follows_settle builder locator owner identity

theorem records_prepare (builder : Builder) :
    Run.Records (·.asksForDirectory = false) builder.prepare := by
  refine (follows_prepare builder).records ?_
  rw [earlyCalls]
  cases builder.owner with
  | none => exact List.forall_mem_nil _
  | some owner =>
    refine List.forall_mem_cons.2 ⟨rfl, ?_⟩
    split
    · exact List.forall_mem_singleton.2 rfl
    · exact List.forall_mem_nil _

/-! ## What is settled -/

variable {builder : Builder} {s t : Surroundings} {prepared : Prepared}

theorem tree_of_chooseFactory {factory : Value}
    (chosen : builder.chooseFactory.run s = (.ok factory, t)) : t.tree = s.tree := by
  rw [chooseFactory] at chosen
  split at chosen
  · exact (congrArg (Surroundings.tree ∘ Prod.snd) chosen).symm
  · split at chosen
    · exact (congrArg (Surroundings.tree ∘ Prod.snd) chosen).symm
    · exact (congrArg (Surroundings.tree ∘ Prod.snd) chosen).symm

/-- What is known once a build asks for the directory. -/
structure Settled (builder : Builder) (s : Surroundings) (prepared : Prepared) : Prop where
  locator : ∃ locator ∈ builder.locator,
    locator.resolve (prepared.owner.shown s) = .ok prepared.resolved
  owner : builder.owner = some prepared.owner
  identity : prepared.owner.shown s = .text prepared.identity.text
  readOnly : builder.options.checkReadOnly = .ok ()
  plan : ∃ root name, rootOf s.working builder.root = .ok root ∧
    fileNameOf prepared.resolved.toLocator builder.options.fileName = .ok name ∧
    (LocalPath.choose prepared.resolved.path root prepared.identity.text name .standard).result =
      .ok prepared.plan

/-- What is settled before the directory is settled in the tree as it was. -/
theorem settled_of_prepare (given : builder.prepare.run s = (.ok prepared, t)) :
    builder.Settled s prepared ∧ t.tree = s.tree := by
  rw [prepare] at given
  split at given
  · next locator located =>
    split at given
    · next owner owned =>
      simp only [Run.bind_eq_ok, Owner.readIdentity_run, Run.ofFailure_eq_ok] at given
      obtain ⟨_, _, ⟨readOnly, rfl⟩, _, _, ⟨⟩, given⟩ := given
      split at given
      · exact absurd given Run.fail_ne_ok
      · simp only [settle, Run.bind_eq_ok, Run.ofFailure_eq_ok, Run.pure_eq_ok] at given
        obtain ⟨factory, _, asked, resolved, _, ⟨resolves, rfl⟩, who, _, ⟨checked, rfl⟩, plan, _,
          planned, rfl, rfl⟩ := given
        obtain ⟨root, name, rooted, named, chosen, tree⟩ := choosePlan_eq_ok planned
        -- Asking for reactive streams is the only step here that could touch the tree.
        have untouched := tree_of_chooseFactory asked
        rw [Surroundings.working, untouched] at rooted
        refine ⟨?_, tree.trans untouched⟩
        exact {
          locator := ⟨locator, located, resolves⟩
          owner := owned
          identity := eq_text_of_checkOwnerIdentity checked
          readOnly := readOnly
          plan := ⟨root, name, rooted, named, chosen⟩ }
    · exact absurd given Run.fail_ne_ok
  · exact absurd given Run.fail_ne_ok

/-! ## How a build ends -/

/-- How putting a configuration together ends: before the directory is asked for, with the
collaborator that makes directories, or after it. -/
inductive Ends (builder : Builder) (s : Surroundings) :
    Except Fault (Configuration × LocalPath.Plan) × Surroundings → Prop
  | before {fault : Fault} {t : Surroundings}
      (stopped : builder.prepare.run s = (.error fault, t)) : Ends builder s (.error fault, t)
  | within {prepared : Prepared} {t u : Surroundings} {fault : Fault}
      (first : builder.prepare.run s = (.ok prepared, t))
      (refused : (builder.makeReady prepared.plan.directory).run t = (.error fault, u)) :
      Ends builder s (.error fault, u)
  | spoiled {prepared : Prepared} {t u : Surroundings} {m : Misuse}
      (first : builder.prepare.run s = (.ok prepared, t))
      (ready : (builder.makeReady prepared.plan.directory).run t = (.ok (), u)) :
      Ends builder s (.error (.misuse m), u)
  | built {prepared : Prepared} {t u : Surroundings} {canonical : Text} {schema : List Value}
      (first : builder.prepare.run s = (.ok prepared, t))
      (ready : (builder.makeReady prepared.plan.directory).run t = (.ok (), u))
      (resolved : canonicalPath u.tree prepared.plan.directory prepared.plan.fileName =
        .ok canonical)
      (distinct : builder.schema = .ok schema) :
      Ends builder s (.ok (builder.configuration prepared canonical schema, prepared.plan), u)

theorem ends_assemble (builder : Builder) (s : Surroundings) :
    builder.Ends s (builder.assemble.run s) := by
  rw [assemble_eq_bind, Run.bind_run]
  rcases first : builder.prepare.run s with ⟨fault | prepared, t⟩
  · exact .before first
  · simp only [Run.bind_run]
    rcases ready : (builder.makeReady prepared.plan.directory).run t with ⟨fault | ⟨⟩, u⟩
    · exact .within first ready
    · simp only [conclude, Run.bind_run, Run.get_run]
      cases resolved : canonicalPath u.tree prepared.plan.directory prepared.plan.fileName with
      | error m => exact .spoiled first ready
      | ok canonical =>
        simp only [Run.ofMisuse_ok_run]
        cases distinct : builder.schema with
        | error m => exact .spoiled first ready
        | ok schema => exact .built first ready resolved distinct

theorem makeReady_run (builder : Builder) (directory : Text) (t : Surroundings) :
    (builder.makeReady directory).run t =
      (builder.defaults.ensureDirectory directory).run
        { t with calls := t.calls ++ [.ensureDirectory directory] } := by
  rw [makeReady, Run.bind_run, Run.record_run]

end Builder
end SyncedFile
