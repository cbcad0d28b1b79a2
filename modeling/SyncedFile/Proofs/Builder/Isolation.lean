import SyncedFile.Proofs.Builder.Outcome
import SyncedFile.Proofs.FileTree.LinkFree

/-!
# The files of different identities

An identity has a directory of its own under the root, and all that is kept for it lies in there,
whatever a file is named and however its path has been shortened.

* `Made` — the builders there are, and where their locators come from;
* `KeptUnder`, `keptUnder_of_outcome` — a configuration stays in the directory of its identity;
* `isolated_of_build` — the configurations of different identities.
-/

namespace SyncedFile

/-! ## Builders -/

namespace Builder

/-- The builder has been made for a raw identifier, and settings may have followed. -/
inductive Made : Builder → Prop where
  | make {owner : Option Owner} {raw : Value} {origin : Option Origin} {defaults : Defaults}
      {builder : Builder} {s t : Surroundings}
      (given : (Builder.make owner raw origin defaults).run s = (.ok builder, t)) : Made builder
  | set {builder next : Builder} {setting : Setting} (made : Made builder)
      (given : builder.set setting = .ok next) : Made next

theorem locator_of_set {builder next : Builder} {setting : Setting}
    (given : builder.set setting = .ok next) : next.locator = builder.locator := by
  rw [set] at given
  split at given
  · cases given
  · split at given
    · rw [← Except.ok.inj given]
    · cases given

/-- What making a builder comes to once its owner is checked. -/
def makeChecked (owner : Option Owner) (raw : Value) (origin : Option Origin)
    (defaults : Defaults) : Run Builder := do
  if raw.isNull then
    return { owner := owner, locator := none, defaults := defaults }
  else
    let locator ← Run.ofFault (Locator.normalize raw origin)
    Run.emit (locator.normalizedEvent raw)
    return { owner := owner, locator := some locator, defaults := defaults }

theorem make_eq_bind (owner : Option Owner) (raw : Value) (origin : Option Origin)
    (defaults : Defaults) :
    Builder.make owner raw origin defaults =
      (match owner with
        | some owner => Run.ofFailure owner.check
        | none => pure ()) >>= fun _ => makeChecked owner raw origin defaults := by
  cases owner <;> rfl

theorem locator_of_makeChecked {owner : Option Owner} {raw : Value} {origin : Option Origin}
    {defaults : Defaults} {builder : Builder} {s t : Surroundings}
    (given : (makeChecked owner raw origin defaults).run s = (.ok builder, t)) :
    ∀ locator ∈ builder.locator, Locator.normalize raw origin = .ok locator := by
  rw [makeChecked] at given
  split at given
  · obtain ⟨rfl, -⟩ := Run.pure_eq_ok.1 given
    intro locator mem
    cases mem
  · simp only [Run.bind_eq_ok, Run.ofFault_eq_ok, Run.emit_run, Run.pure_eq_ok] at given
    obtain ⟨locator, _, ⟨read, rfl⟩, _, _, ⟨⟩, rfl, -⟩ := given
    rintro _ ⟨⟩
    exact read

theorem locator_of_make {owner : Option Owner} {raw : Value} {origin : Option Origin}
    {defaults : Defaults} {builder : Builder} {s t : Surroundings}
    (given : (Builder.make owner raw origin defaults).run s = (.ok builder, t)) :
    ∀ locator ∈ builder.locator, Locator.normalize raw origin = .ok locator := by
  rw [make_eq_bind] at given
  obtain ⟨_, _, -, rest⟩ := Run.bind_eq_ok.1 given
  exact locator_of_makeChecked rest

theorem Made.locator {builder : Builder} (made : builder.Made) :
    ∀ locator ∈ builder.locator, ∃ raw origin, Locator.normalize raw origin = .ok locator := by
  induction made with
  | make given => exact fun locator mem => ⟨_, _, locator_of_make given locator mem⟩
  | set _ given ih =>
    rw [locator_of_set given]
    exact ih

theorem Made.isRead {builder : Builder} (made : builder.Made) {s : Surroundings}
    {after : FileTree} {c : Configuration} (outcome : builder.Outcome s after c) :
    c.remoteLocator.IsRead := by
  obtain ⟨locator, located, owner, -, resolves⟩ := outcome.remoteLocator
  obtain ⟨raw, origin, given⟩ := made.locator locator located
  exact ⟨raw, origin, locator, owner.shown s, given, resolves⟩

end Builder

/-! ## Directories of identities -/

namespace LocalPath

theorem notMem_slash_sanitize (name : Text) : '/' ∉ sanitize name := by
  intro mem
  exact notMem_forbidden_of_mem_sanitize mem (by decide)

theorem dropLast_levels_full {segments : List Text} (nonempty : segments ≠ []) (above : List Text)
    (identity : Text) :
    (above ++ identity :: Strategy.full.levels segments).dropLast =
      above ++ identity :: (levels segments).dropLast := by
  rw [List.dropLast_append_of_ne_nil (List.cons_ne_nil _ _), Strategy.levels,
    List.dropLast_cons_of_ne_nil (levels_ne_nil nonempty)]

/-- A file name never leads out of the directory of the identity: only a name that is kept can stand
for the directory above, and then there is a level to go up from. -/
theorem prefix_namesOf {segments : List Text} (nonempty : segments ≠ []) (above : List Text)
    (identity name : Text) (strategy : Strategy) :
    above ++ [identity] <+: FileTree.namesOf (above ++ identity :: strategy.levels segments)
      (sanitize (strategy.fileName name)) := by
  have within (levels : List Text) : above ++ [identity] <+: above ++ identity :: levels :=
    ⟨levels, by simp⟩
  rw [FileTree.namesOf]
  split
  · exact within _
  · split
    · next upwards =>
      obtain rfl | digest := fileName_cases strategy name
      · rw [dropLast_levels_full nonempty]
        exact within _
      · -- No digest reads `..`.
        rw [digest, Segment.sanitize_of_isSegment (isSegment_digestName name)] at upwards
        exact absurd upwards (isName_digestName name).ne_above
    · exact (within _).trans (List.prefix_append _ _)

end LocalPath

/-- The canonical path of a file in a directory that leads along names. -/
theorem eq_ofNames_of_canonicalPath {tree : FileTree} (linkFree : tree.LinkFree) {slashes : Nat}
    (positive : slashes ≠ 0) {directory : List Text} (nonempty : directory ≠ [])
    (names : ∀ name ∈ directory, Path.IsName name) {fileName path : Text}
    (noSlash : '/' ∉ fileName)
    (given : canonicalPath tree (Path.ofNames slashes directory) fileName = .ok path) :
    path = Path.ofNames 1 (FileTree.namesOf directory fileName) := by
  rw [canonicalPath, Path.join_eq_append nonempty (Path.arePieces_of_isName names) noSlash] at given
  split at given
  · cases given
  · rw [← Except.ok.inj given]
    exact FileTree.canonical_ofNames linkFree positive nonempty names noSlash

/-- The file of a configuration is kept in the directory of its identity under the root, also once
links have been resolved. -/
structure Configuration.KeptUnder (c : Configuration) (root : Text) : Prop where
  directory : Path.slashes c.directory = Path.slashes root ∧
    Path.names root ++ [c.identity.text] <+: Path.names c.directory
  canonicalPath : Path.slashes c.canonicalPath = 1 ∧
    Path.names root ++ [c.identity.text] <+: Path.names c.canonicalPath
  /-- No component of the canonical path leads up again. -/
  isName : ∀ name ∈ Path.names c.canonicalPath, Path.IsName name

namespace Builder

variable {builder : Builder} {s : Surroundings} {after : FileTree} {c : Configuration} {root : Text}

/-- The directory of a configuration leads along the names of the root, the identity and the levels
that a strategy has kept. Its file name is the one that the strategy has kept. -/
theorem directory_of_outcome (made : builder.Made) (outcome : builder.Outcome s after c)
    (rooted : rootOf s.working builder.root = .ok root) :
    ∃ slashes above strategy name, (slashes = 1 ∨ slashes = 2) ∧
      root = Path.ofNames slashes above ∧ (∀ name ∈ above, Path.IsName name) ∧
      (∀ name ∈ above ++ c.identity.text ::
        LocalPath.Strategy.levels c.remoteLocator.path strategy, Path.IsName name) ∧
      c.directory = Path.ofNames slashes
        (above ++ c.identity.text :: strategy.levels c.remoteLocator.path) ∧
      c.fileName = LocalPath.sanitize (strategy.fileName name) ∧
      fileNameOf c.remoteLocator.toLocator builder.options.fileName = .ok name := by
  obtain ⟨root', name, plan, rooted', named, chosen, directoryEq, fileNameEq⟩ := outcome.plan
  obtain rfl := Except.ok.inj (rooted.symm.trans rooted')
  obtain ⟨slashes, above, leading, names, rfl⟩ := rootOf_eq_ok rooted
  have positive := Path.ne_zero_of_one_or_two leading
  have levels := LocalPath.isName_of_mem_levels (made.isRead outcome).segments plan.strategy
  obtain ⟨planDirectory, planFileName⟩ := LocalPath.choose_eq_ok chosen
  refine ⟨slashes, above, plan.strategy, name, leading, rfl, names, ?_, ?_, ?_, named⟩
  · simp only [List.forall_mem_append, List.forall_mem_cons]
    exact ⟨names, c.identity.isName, levels⟩
  · rw [directoryEq, planDirectory, LocalPath.directory_ofNames positive
      (Path.arePieces_of_isName names) c.identity.isName (Path.arePieces_of_isName levels)]
  · rw [fileNameEq, planFileName]

/-- The directory of a configuration goes on from the root with the identity, whatever the segments
of the locator are. -/
theorem prefix_names_of_outcome (outcome : builder.Outcome s after c)
    (rooted : rootOf s.working builder.root = .ok root) :
    Path.slashes c.directory = Path.slashes root ∧
      Path.names root ++ [c.identity.text] <+: Path.names c.directory := by
  obtain ⟨root', name, plan, rooted', -, chosen, directoryEq, -⟩ := outcome.plan
  obtain rfl := Except.ok.inj (rooted.symm.trans rooted')
  obtain ⟨slashes, above, leading, names, rfl⟩ := rootOf_eq_ok rooted
  have plainRoot := Path.arePieces_of_isName names
  have identity := c.identity.isName
  rw [directoryEq, (LocalPath.choose_eq_ok chosen).1,
    LocalPath.directory_eq_ofNames (Path.ne_zero_of_one_or_two leading) plainRoot identity]
  generalize Path.ofNames 0 (plan.strategy.levels c.remoteLocator.path) = subPath
  have plainDirectory : Path.ArePieces (above ++ c.identity.text :: Path.names subPath) :=
    List.forall_mem_append.2 ⟨plainRoot, List.forall_mem_cons.2
      ⟨⟨identity.ne_nil, identity.notMem_slash⟩, Path.arePieces_names subPath⟩⟩
  constructor
  · rw [Path.slashes_ofNames leading plainDirectory, Path.slashes_ofNames leading plainRoot]
  · rw [Path.names_ofNames _ plainDirectory, Path.names_ofNames _ plainRoot]
    exact ⟨_, List.append_assoc _ _ _⟩

theorem names_directory_ne_nil (outcome : builder.Outcome s after c) :
    Path.names c.directory ≠ [] := by
  obtain ⟨root, _, _, rooted, -⟩ := outcome.plan
  have below := (prefix_names_of_outcome outcome rooted).2
  exact below.ne_nil (List.append_ne_nil_of_right_ne_nil _ (List.cons_ne_nil _ _))

theorem directory_eq_ofNames (made : builder.Made) (outcome : builder.Outcome s after c) :
    ∃ slashes, (slashes = 1 ∨ slashes = 2) ∧
      c.directory = Path.ofNames slashes (Path.names c.directory) ∧
      ∀ name ∈ Path.names c.directory, Path.IsName name := by
  obtain ⟨root, _, _, rooted, -⟩ := outcome.plan
  obtain ⟨slashes, above, strategy, _, leading, -, -, directoryNames, directory, -⟩ :=
    directory_of_outcome made outcome rooted
  rw [directory, Path.names_ofNames _ (Path.arePieces_of_isName directoryNames)]
  exact ⟨slashes, leading, rfl, directoryNames⟩

theorem isName_of_mem_directory (made : builder.Made) (outcome : builder.Outcome s after c) :
    ∀ name ∈ Path.names c.directory, Path.IsName name := by
  obtain ⟨_, -, -, names⟩ := directory_eq_ofNames made outcome
  exact names

theorem notMem_slash_fileName (outcome : builder.Outcome s after c) : '/' ∉ c.fileName := by
  obtain ⟨_, name, plan, -, -, chosen, -, fileName⟩ := outcome.plan
  rw [fileName, (LocalPath.choose_eq_ok chosen).2]
  exact LocalPath.notMem_slash_sanitize (plan.strategy.fileName name)

/-- Without a name of its own a file is named by the last segment of its locator, or by the digest of
it. Neither is changed to suit the file system. -/
theorem fileName_of_unnamed (made : builder.Made) (outcome : builder.Outcome s after c)
    (unnamed : builder.options.fileName = .null) :
    ∃ strategy : LocalPath.Strategy,
      c.fileName = strategy.fileName c.remoteLocator.lastSegment := by
  obtain ⟨_, name, plan, -, named, chosen, -, fileName⟩ := outcome.plan
  have last : c.remoteLocator.lastSegment = name := by
    rw [unnamed] at named
    exact Except.ok.inj named
  have accepted := ((made.isRead outcome).segments c.remoteLocator.lastSegment
    (List.getLast_mem _)).2
  refine ⟨plan.strategy, ?_⟩
  rw [fileName, (LocalPath.choose_eq_ok chosen).2, ← last, LocalPath.sanitize_fileName accepted]

/-- Without links the canonical path goes on from the names of the directory with the name of the
file. -/
theorem canonicalPath_of_outcome (made : builder.Made) (outcome : builder.Outcome s after c)
    (linkFree : after.LinkFree) :
    c.canonicalPath = Path.ofNames 1 (FileTree.namesOf (Path.names c.directory) c.fileName) := by
  obtain ⟨slashes, leading, directory, names⟩ := directory_eq_ofNames made outcome
  have resolved := outcome.canonicalPath
  rw [directory] at resolved
  exact eq_ofNames_of_canonicalPath linkFree (Path.ne_zero_of_one_or_two leading)
    (names_directory_ne_nil outcome) names (notMem_slash_fileName outcome) resolved

theorem keptUnder_of_outcome (made : builder.Made) (outcome : builder.Outcome s after c)
    (linkFree : after.LinkFree) (rooted : rootOf s.working builder.root = .ok root) :
    c.KeptUnder root := by
  have under := prefix_names_of_outcome outcome rooted
  have canonical := canonicalPath_of_outcome made outcome linkFree
  have canonicalNames := FileTree.isName_of_mem_namesOf (isName_of_mem_directory made outcome)
    (notMem_slash_fileName outcome)
  have plainCanonical := Path.arePieces_of_isName canonicalNames
  obtain ⟨slashes, above, strategy, name, -, rfl, names, directoryNames, directory, fileName, -⟩ :=
    directory_of_outcome made outcome rooted
  refine ⟨under, ⟨?_, ?_⟩, ?_⟩
  · rw [canonical, Path.slashes_ofNames (.inl rfl) plainCanonical]
  · rw [canonical, Path.names_ofNames _ plainCanonical,
      Path.names_ofNames _ (Path.arePieces_of_isName names), fileName, directory,
      Path.names_ofNames _ (Path.arePieces_of_isName directoryNames)]
    exact LocalPath.prefix_namesOf c.remoteLocator.path_ne_nil _ _ _ _
  · rw [canonical, Path.names_ofNames _ plainCanonical]
    exact canonicalNames

/-! ## Trees without links -/

theorem linkFree_ensureDirectory {path : Text} {s t : Surroundings} (linkFree : s.tree.LinkFree)
    (ready : (ensureDirectory (.text path)).run s = (.ok (), t)) : t.tree.LinkFree := by
  have prepared := FileTree.linkFree_prepareDirectory linkFree s.readOnly path
  rw [ensureDirectory] at ready
  simp only [pathText?, Run.bind_eq_ok, Run.get_run] at ready
  obtain ⟨_, _, ⟨⟩, _, between, changed, ready⟩ := ready
  have tree : between.tree = (s.tree.prepareDirectory s.readOnly path).2 :=
    (congrArg (Surroundings.tree ∘ Prod.snd) changed).symm
  split at ready
  · cases ready
  · exact absurd ready Run.fail_ne_ok
  · have same : t.tree = between.tree := (congrArg (Surroundings.tree ∘ Prod.snd) ready).symm
    rw [same, tree]
    exact prepared

/-- Where directories are made in the usual way, no link comes about. -/
theorem linkFree_of_outcome (outcome : builder.Outcome s after c)
    (usual : builder.defaults.ensureDirectory = fun path => ensureDirectory (.text path))
    (linkFree : s.tree.LinkFree) : after.LinkFree := by
  obtain ⟨before, u, same, rfl, ready⟩ := outcome.ensured
  rw [usual] at ready
  exact linkFree_ensureDirectory (same ▸ linkFree) ready

/-! ## Two identities -/

theorem not_prefix_of_ne {above p q : List Text} {i j : Text} (left : above ++ [i] <+: p)
    (right : above ++ [j] <+: q) (different : i ≠ j) : ¬ p <+: q := by
  intro inside
  have nested := List.prefix_of_prefix_length_le (left.trans inside) right (by simp)
  have same := nested.eq_of_length (by simp)
  exact different (List.append_singleton_inj.1 same).2

/-- The files of two identities under one root are kept in the directories of the two identities, so
that neither file is the other or lies beneath it. -/
theorem isolated_of_build {first second : Builder} (firstMade : first.Made)
    (secondMade : second.Made) {s t : Surroundings} {root : Text}
    (firstRoot : rootOf s.working first.root = .ok root)
    (secondRoot : rootOf t.working second.root = .ok root) {c d : Configuration}
    (firstBuilt : (first.build s).1 = .ok c) (secondBuilt : (second.build t).1 = .ok d)
    (firstTree : (first.build s).2.2.tree.LinkFree)
    (secondTree : (second.build t).2.2.tree.LinkFree)
    (identities : first.owner.map (·.shown s) ≠ second.owner.map (·.shown t)) :
    (first.owner.map (·.shown s) = some (.text c.identity.text) ∧ c.KeptUnder root) ∧
      (second.owner.map (·.shown t) = some (.text d.identity.text) ∧ d.KeptUnder root) ∧
      c.canonicalPath ≠ d.canonicalPath ∧
      ¬ Path.names c.canonicalPath <+: Path.names d.canonicalPath ∧
      ¬ Path.names d.canonicalPath <+: Path.names c.canonicalPath := by
  have firstOutcome := outcome_of_build firstBuilt
  have secondOutcome := outcome_of_build secondBuilt
  have firstShown : first.owner.map (·.shown s) = some (.text c.identity.text) := by
    rw [firstOutcome.owner, Option.map_some, firstOutcome.identity]
  have secondShown : second.owner.map (·.shown t) = some (.text d.identity.text) := by
    rw [secondOutcome.owner, Option.map_some, secondOutcome.identity]
  have different : c.identity.text ≠ d.identity.text := by
    intro same
    rw [firstShown, secondShown, same] at identities
    exact identities rfl
  have firstKept := keptUnder_of_outcome firstMade firstOutcome firstTree firstRoot
  have secondKept := keptUnder_of_outcome secondMade secondOutcome secondTree secondRoot
  have apart := not_prefix_of_ne firstKept.canonicalPath.2 secondKept.canonicalPath.2 different
  refine ⟨⟨firstShown, firstKept⟩, ⟨secondShown, secondKept⟩, fun same => ?_, apart, ?_⟩
  · exact apart (same ▸ List.prefix_rfl)
  · exact not_prefix_of_ne secondKept.canonicalPath.2 firstKept.canonicalPath.2 different.symm

def ofIdentity (identity : Text) : Builder where
  owner := some (.fixed (.text identity) (.bool true))
  locator := some (Locator.onHost [Segment.placeholder, "default"] (List.cons_ne_nil _ _))
  defaults := { root := .text "/data" }

/-- The files of two users in an empty tree. -/
theorem isolated_of_two_users :
    ∃ c d, ((ofIdentity "alice").build {}).1 = .ok c ∧ ((ofIdentity "bob").build {}).1 = .ok d ∧
      c.canonicalPath ≠ d.canonicalPath ∧ c.KeptUnder "/data" ∧ d.KeptUnder "/data" := by
  have made (identity : Text) : (ofIdentity identity).Made := by
    have given : (Builder.make (some (.fixed (.text identity) (.bool true)))
      (.text "realm://h/~/default") none { root := .text "/data" }).run {} =
        (.ok (ofIdentity identity), _) := rfl
    exact .make given
  have built (identity : Text)
      (returns : ((ofIdentity identity).build {}).1.toOption.isSome = true) :
      ∃ c, ((ofIdentity identity).build {}).1 = .ok c := by
    cases result : ((ofIdentity identity).build {}).1 with
    | error fault =>
      rw [result] at returns
      cases returns
    | ok c => exact ⟨c, rfl⟩
  have empty : (({} : Surroundings).tree).LinkFree := by
    intro place target found
    rw [FileTree.find?] at found
    split at found <;> cases found
  obtain ⟨c, first⟩ := built "alice" (by decide +kernel)
  obtain ⟨d, second⟩ := built "bob" (by decide +kernel)
  have root : rootOf ({} : Surroundings).working (.text "/data") = .ok "/data" := rfl
  have firstTree := linkFree_of_outcome (outcome_of_build first) rfl empty
  have secondTree := linkFree_of_outcome (outcome_of_build second) rfl empty
  have owners : Option.some (Value.text "alice") ≠ some (Value.text "bob") := fun same =>
    absurd (Value.text.inj (Option.some.inj same)) (by decide)
  have apart := isolated_of_build (made "alice") (made "bob") root root first second firstTree
    secondTree owners
  exact ⟨c, d, first, second, apart.2.2.1, apart.1.2, apart.2.1.2⟩

end Builder
end SyncedFile
