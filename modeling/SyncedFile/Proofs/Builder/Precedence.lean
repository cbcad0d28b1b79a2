import SyncedFile.Proofs.Builder.History
import SyncedFile.Proofs.Builder.Invariant
import SyncedFile.Proofs.Value.Content

/-!
# Options and defaults

What has been set explicitly comes before the default, whatever else is set and in whatever order.
One option is different: a handler of errors that counts as absent gives way to the default one,
although it has been accepted.

* `Configuration.TakenFrom` — where a configuration takes its collaborators, modules and place from;
* `Options.errorHandler_of_last` and its like — the options that settings stage;
* `Builder.takenFrom_of_buildWith` — every configuration that is built.
-/

namespace SyncedFile

/-- The directory of a configuration lies under a root, in the directory of its identity. -/
def Configuration.LiesUnder (c : Configuration) (root : Text) : Prop :=
  Path.slashes c.directory = Path.slashes root ∧
    Path.names root ++ [c.identity.text] <+: Path.names c.directory

/-- Where a configuration takes from what can be set or left to the defaults. Of the settings for an
option the last that is accepted decides; the default stands in where there is none. -/
structure Configuration.TakenFrom (c : Configuration) (settings : List Setting)
    (defaults : Defaults) (working : Text) : Prop where
  /-- A handler that counts as absent gives way to the default one. -/
  errorHandler : ∀ handler, LastAccepted settings (.errorHandler handler) →
    c.errorHandler = if handler.isTruthy then handler else defaults.errorHandler
  defaultErrorHandler : NeverAccepted settings .errorHandler →
    c.errorHandler = defaults.errorHandler
  reactiveFactory : ∀ factory, LastAccepted settings (.reactiveFactory factory) →
    factory ≠ .null → c.reactiveFactory = factory
  /-- The default factory is taken only where reactive streams are available. -/
  defaultReactiveFactory :
    NeverAccepted settings .reactiveFactory ∨ LastAccepted settings (.reactiveFactory .null) →
      c.reactiveFactory = if defaults.reactiveAvailable then defaults.reactiveFactory else .null
  modules : ∀ base more, LastAccepted settings (.modules base more) →
    Value.IsSetOf c.schema ((base :: more).filter (!·.isNull))
  defaultModules : NeverAccepted settings .modules → Value.IsSetOf c.schema defaults.schema
  directory : ∀ directory, LastAccepted settings (.directory directory) →
    ∃ text, pathOf directory = .ok (.text text) ∧ c.LiesUnder (Path.absolute working text)
  defaultDirectory : NeverAccepted settings .directory →
    ∃ root, rootOf working defaults.root = .ok root ∧ c.LiesUnder root

/-! ## Options that are staged -/

namespace Options

variable {settings : List Setting}

theorem errorHandler_of_last {handler : Value}
    (last : LastAccepted settings (.errorHandler handler)) :
    (({} : Options).attemptAll settings).errorHandler = handler := by
  obtain ⟨update, updates⟩ := last.accepted
  have staged := only_attemptAll_of_lastAccepted last updates {}
  cases updates with
  | errorHandler callable => exact congrArg Options.errorHandler staged

theorem reactiveFactory_of_last {factory : Value}
    (last : LastAccepted settings (.reactiveFactory factory)) :
    (({} : Options).attemptAll settings).reactiveFactory = factory := by
  have staged := only_attemptAll_of_lastAccepted last .reactiveFactory {}
  exact congrArg Options.reactiveFactory staged

theorem modules_of_last {base : Value} {more : List Value}
    (last : LastAccepted settings (.modules base more)) :
    (({} : Options).attemptAll settings).modules = some ((base :: more).filter (!·.isNull)) := by
  obtain ⟨update, updates⟩ := last.accepted
  have staged := only_attemptAll_of_lastAccepted last updates {}
  cases updates with
  | @modules _ _ ms present given =>
    have checked := checkModules_eq (base :: more)
    rw [given] at checked
    split at checked
    · cases checked
    · rw [← Except.ok.inj checked]
      exact congrArg Options.modules staged

/-- A directory is staged as the path that it stands for. -/
theorem directory_of_last {directory : Value}
    (last : LastAccepted settings (.directory directory)) :
    pathOf directory = .ok (({} : Options).attemptAll settings).directory := by
  obtain ⟨update, updates⟩ := last.accepted
  have staged := only_attemptAll_of_lastAccepted last updates {}
  cases updates with
  | directory present given =>
    rw [given]
    exact congrArg Except.ok (congrArg Options.directory staged).symm

end Options

namespace Builder

variable {builder : Builder} {s : Surroundings} {c : Configuration}

/-- A configuration that is built after settings has been built with the options that they have
staged. -/
theorem exists_of_buildWith {owner : Option Owner} {raw : Value} {origin : Option Origin}
    {defaults : Defaults} {settings : List Setting}
    (built : buildWith owner raw origin defaults settings s = .ok c) :
    ∃ builder t, builder.Made ∧ builder.defaults = defaults ∧
      builder.options = ({} : Options).attemptAll settings ∧ t.tree = s.tree ∧
      (Builder.build builder t).1 = .ok c := by
  rw [buildWith] at built
  split at built
  · cases built
  · next fresh t given =>
    -- Making the builder has logged an event, but the tree is the same.
    have made : (after (settings.map .set) (fresh, t)).1.Made :=
      holds_after (.make given) (by simp) (fun _ _ _ _ accepted made => .set made accepted) t
    have tree := tree_of_make given
    have shape := eq_of_make given
    have staged := @after_set fresh (by rw [shape]) settings t
    rw [staged] at built made
    refine ⟨_, t, made, ?_, ?_, tree, built⟩
    · rw [shape]
    · rw [shape]

theorem liesUnder_of_build (made : builder.Made) (built : (builder.build s).1 = .ok c) :
    ∃ root, rootOf s.working builder.root = .ok root ∧ c.LiesUnder root := by
  obtain ⟨root, rooted, sound⟩ := sound_of_made made built
  exact ⟨root, rooted, sound.identity⟩

theorem isSetOf_of_build (built : (builder.build s).1 = .ok c) :
    Value.IsSetOf c.schema (builder.options.modules.getD builder.defaults.schema) := by
  have chosen := (chosen_of_build built).schema
  rw [schema] at chosen
  split at chosen
  · cases chosen
  · rw [← Except.ok.inj chosen]
    exact Value.isSetOf_distinct _

theorem isNull_of_pathOf {value path : Value} (given : pathOf value = .ok path) :
    path.isNull = false := by
  unfold pathOf at given
  split at given
  · rw [← Except.ok.inj given]; rfl
  · rw [← Except.ok.inj given]; rfl
  · rw [← Except.ok.inj given]; rfl
  · cases given

theorem eq_text_of_rootOf {value path : Value} {working root : Text}
    (given : pathOf value = .ok path) (rooted : rootOf working path = .ok root) :
    ∃ text, path = .text text ∧ root = Path.absolute working text := by
  unfold pathOf at given
  split at given
  · next text =>
    rw [← Except.ok.inj given] at rooted ⊢
    exact ⟨text, rfl, (Except.ok.inj rooted).symm⟩
  · next text =>
    rw [← Except.ok.inj given] at rooted ⊢
    exact ⟨text, rfl, (Except.ok.inj rooted).symm⟩
  · -- A path of octets is accepted as an option, but not put together with an identity.
    rw [← Except.ok.inj given] at rooted
    cases rooted
  · cases given

/-- What has been set comes before the default, whatever has been set before and besides. Only a
handler of errors that counts as absent gives way to the default one, although it is accepted. -/
theorem takenFrom_of_buildWith {owner : Option Owner} {raw : Value} {origin : Option Origin}
    {defaults : Defaults} {settings : List Setting}
    (built : buildWith owner raw origin defaults settings s = .ok c) :
    c.TakenFrom settings defaults s.working := by
  obtain ⟨builder, t, made, rfl, staged, tree, built⟩ := exists_of_buildWith built
  have chosen := chosen_of_build built
  have modules := isSetOf_of_build built
  obtain ⟨root, rooted, lies⟩ := liesUnder_of_build made built
  rw [Surroundings.working, tree] at rooted
  -- An option for which no setting is accepted is unset.
  have unset (key : OptionKey) (never : NeverAccepted settings key) :
      builder.options.only key = ({} : Options).only key := by
    rw [staged]
    exact Options.only_attemptAll_of_neverAccepted never {}
  constructor
  case errorHandler =>
    intro handler last
    rw [chosen.errorHandler, Builder.errorHandler, staged, Options.errorHandler_of_last last]
  case defaultErrorHandler =>
    intro never
    have absent : builder.options.errorHandler = .null :=
      congrArg Options.errorHandler (unset .errorHandler never)
    rw [chosen.errorHandler, Builder.errorHandler, absent]
    rfl
  case reactiveFactory =>
    intro factory last present
    rw [chosen.reactiveFactory, Builder.factory, staged, Options.reactiveFactory_of_last last]
    cases factory with
    | null => exact absurd rfl present
    | _ => rfl
  case defaultReactiveFactory =>
    intro absent
    have null : builder.options.reactiveFactory = .null := by
      obtain never | last := absent
      · exact congrArg Options.reactiveFactory (unset .reactiveFactory never)
      · rw [staged, Options.reactiveFactory_of_last last]
    rw [chosen.reactiveFactory, Builder.factory, null]
    rfl
  case modules =>
    intro base more last
    rw [staged, Options.modules_of_last last] at modules
    exact modules
  case defaultModules =>
    intro never
    have absent : builder.options.modules = none :=
      congrArg Options.modules (unset .modules never)
    rw [absent] at modules
    exact modules
  case directory =>
    intro directory last
    have path := Options.directory_of_last last
    rw [← staged] at path
    rw [Builder.root, isNull_of_pathOf path, if_neg Bool.false_ne_true] at rooted
    -- The build has put the directory together with the identity, so it is a text.
    obtain ⟨text, eq, rfl⟩ := eq_text_of_rootOf path rooted
    exact ⟨text, eq ▸ path, lies⟩
  case defaultDirectory =>
    intro never
    have absent : builder.options.directory = .null :=
      congrArg Options.directory (unset .directory never)
    rw [Builder.root, absent] at rooted
    exact ⟨root, rooted, lies⟩

/-- A handler that counts as absent is accepted last, and the configuration has the default one
all the same, while a factory and a directory are taken as they are set. -/
theorem takenFrom_of_falsy_handler :
    let handler : Value := .callable "h" true
    let settings : List Setting := [.errorHandler handler, .reactiveFactory (.object "streams"),
      .directory (.path "/srv/../files"), .directory .null]
    let defaults : Defaults := { root := .text "/data", errorHandler := .callable "log" false }
    ∃ c, buildWith (some (.fixed (.text "user42") (.bool true))) (.text "realm://h/~/default") none
        defaults settings {} = .ok c ∧
      LastAccepted settings (.errorHandler handler) ∧ c.errorHandler = .callable "log" false ∧
      c.reactiveFactory = .object "streams" ∧ c.LiesUnder "/files" := by
  intro handler settings defaults
  have returns : (buildWith (some (.fixed (.text "user42") (.bool true)))
      (.text "realm://h/~/default") none defaults settings {}).toOption.map (fun _ => ()) =
      some () := by
    decide +kernel
  obtain ⟨c, built, -⟩ := Run.exists_ok_of_map returns
  have taken := takenFrom_of_buildWith built
  have lastHandler : LastAccepted settings (.errorHandler handler) := by
    refine ⟨⟨_, .errorHandler rfl⟩, [], _, rfl, ?_⟩
    simp [NeverAccepted, Setting.key]
  have lastFactory : LastAccepted settings (.reactiveFactory (.object "streams")) := by
    refine ⟨⟨_, .reactiveFactory⟩, [_], _, rfl, ?_⟩
    simp [NeverAccepted, Setting.key]
  have lastDirectory : LastAccepted settings (.directory (.path "/srv/../files")) := by
    refine ⟨⟨_, .directory rfl rfl⟩, [_, _], _, rfl, ?_⟩
    -- The setting that follows is for the directory, too, but it is refused.
    rintro setting mem - ⟨_, updates⟩
    obtain rfl := List.mem_singleton.1 mem
    cases updates with
    | directory present => cases present
  obtain ⟨text, given, lies⟩ := taken.directory _ lastDirectory
  obtain rfl := Value.text.inj (Except.ok.inj given)
  exact ⟨c, built, lastHandler, taken.errorHandler _ lastHandler,
    taken.reactiveFactory _ lastFactory nofun, lies⟩

end Builder
end SyncedFile
