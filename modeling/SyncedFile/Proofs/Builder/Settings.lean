import SyncedFile.Builder.Basic
import SyncedFile.Proofs.Runs

/-!
# Settings

Whether a setting is accepted depends on its arguments alone, and one that is accepted assigns one
option. Setters are atomic: one that is refused, even halfway through its arguments, has assigned
nothing.

* `Setting.Updates`, `Options.set_cases` — what a setting can do;
* `OptionKey`, `Options.without` — the options apart from one of them;
* `Builder.stage`, `Builder.stage_run` — a setter step by step.
-/

namespace SyncedFile

/-! ## Options by their keys -/

/-- The options that can be staged, one for each setter. -/
inductive OptionKey where
  | fileName
  | directory
  | encryptionKey
  | schemaVersion
  | modules
  | reactiveFactory
  | initialData
  | durability
  | errorHandler
  | waitForInitialRemoteData
  | readOnly
  | deleteOnLogout
  deriving DecidableEq

def OptionKey.name : OptionKey → Text
  | fileName => "file_name"
  | directory => "directory"
  | encryptionKey => "encryption_key"
  | schemaVersion => "schema_version"
  | modules => "modules"
  | reactiveFactory => "reactive_factory"
  | initialData => "initial_data"
  | durability => "durability"
  | errorHandler => "error_handler"
  | waitForInitialRemoteData => "wait_for_initial_remote_data"
  | readOnly => "read_only"
  | deleteOnLogout => "delete_on_logout"

/-- The option that a setting is for. -/
def Setting.key : Setting → OptionKey
  | .name _ => .fileName
  | .directory _ => .directory
  | .encryptionKey _ => .encryptionKey
  | .schemaVersion _ => .schemaVersion
  | .modules _ _ => .modules
  | .reactiveFactory _ => .reactiveFactory
  | .initialData _ => .initialData
  | .inMemory => .durability
  | .errorHandler _ => .errorHandler
  | .waitForInitialRemoteData => .waitForInitialRemoteData
  | .readOnly => .readOnly
  | .deleteOnLogout => .deleteOnLogout

namespace Options

/-- The options with one of them as it is unless it is set. -/
def without (options : Options) : OptionKey → Options
  | .fileName => { options with fileName := .null }
  | .directory => { options with directory := .null }
  | .encryptionKey => { options with encryptionKey := none }
  | .schemaVersion => { options with schemaVersion := 0 }
  | .modules => { options with modules := none }
  | .reactiveFactory => { options with reactiveFactory := .null }
  | .initialData => { options with initialData := .null }
  | .durability => { options with durability := .full }
  | .errorHandler => { options with errorHandler := .null }
  | .waitForInitialRemoteData => { options with waitForInitialRemoteData := false }
  | .readOnly => { options with readOnly := false }
  | .deleteOnLogout => { options with deleteOnLogout := false }

end Options

/-! ## Accepted and refused settings -/

/-- The settings that are accepted, and what they assign. -/
inductive Setting.Updates : Setting → (Options → Options) → Prop where
  | name {fileName : Value} (truthy : fileName.isTruthy = true) :
      Updates (.name fileName) fun options => { options with fileName := fileName }
  | directory {directory path : Value} (present : directory.isNull = false)
      (given : pathOf directory = .ok path) :
      Updates (.directory directory) fun options => { options with directory := path }
  | encryptionKey {value : Value} {key : EncryptionKey}
      (given : EncryptionKey.check value = .ok key) :
      Updates (.encryptionKey value) fun options => { options with encryptionKey := some key }
  | schemaVersion {value : Value} {version : Nat}
      (given : Options.versionNumber? value = some version) :
      Updates (.schemaVersion value) fun options => { options with schemaVersion := version }
  | modules {base : Value} {more ms : List Value} (present : base.isNull = false)
      (given : Options.checkModules (base :: more) = .ok ms) :
      Updates (.modules base more) fun options => { options with modules := some ms }
  | reactiveFactory {factory : Value} :
      Updates (.reactiveFactory factory) fun options => { options with reactiveFactory := factory }
  | initialData {action : Value} (allowed : (action.isNull || action.isCallable) = true) :
      Updates (.initialData action) fun options => { options with initialData := action }
  | inMemory : Updates .inMemory fun options => { options with durability := .memoryOnly }
  | errorHandler {handler : Value} (callable : handler.isCallable = true) :
      Updates (.errorHandler handler) fun options => { options with errorHandler := handler }
  | waitForInitialRemoteData :
      Updates .waitForInitialRemoteData fun options =>
        { options with waitForInitialRemoteData := true }
  | readOnly : Updates .readOnly fun options => { options with readOnly := true }
  | deleteOnLogout : Updates .deleteOnLogout fun options => { options with deleteOnLogout := true }

/-- The faults that settings are refused with: a failure names the option that was to be set. -/
inductive Setting.Refuses : Setting → Fault → Prop where
  | argument {setting : Setting} (why : ArgumentFault) (field : why.field = setting.key.name) :
      Refuses setting (.failure (.invalidArgument why))
  | directory {directory : Value} {m : Misuse} (given : pathOf directory = .error m) :
      Refuses (.directory directory) (.misuse m)

theorem EncryptionKey.field_of_check {value : Value} {failure : Failure}
    (refused : EncryptionKey.check value = .error failure) :
    ∃ why : ArgumentFault, failure = .invalidArgument why ∧
      why.field = OptionKey.encryptionKey.name := by
  unfold EncryptionKey.check at refused
  split at refused
  · exact ⟨_, (Except.error.inj refused).symm, rfl⟩
  · split at refused
    · cases refused
    · exact ⟨_, (Except.error.inj refused).symm, rfl⟩
  · exact ⟨_, (Except.error.inj refused).symm, rfl⟩

namespace Options

/-- The first module that cannot stand in a set. -/
def refusedModule? (ms : List Value) : Option Value :=
  ms.find? fun m => !m.isNull && m.unhashable?.isSome

/-- Modules are kept in their order without the absent ones, unless one of them is refused. The
first of these is the one that is reported. -/
theorem checkModules_eq (ms : List Value) :
    checkModules ms =
      match refusedModule? ms with
      | some m => .error (.invalidArgument (.unhashableModule m))
      | none => .ok (ms.filter (!·.isNull)) := by
  induction ms with
  | nil => rfl
  | cons m rest ih =>
    rw [checkModules, ih]
    cases null : m.isNull with
    | true => simp [refusedModule?, null]
    | false =>
      rw [if_neg Bool.false_ne_true, List.filter_cons_of_pos (by simp [null])]
      cases hashable : m.unhashable? with
      | some typeName =>
        have found : refusedModule? (m :: rest) = some m :=
          List.find?_cons_of_pos (by simp [null, hashable])
        rw [found]
      | none =>
        have passed : refusedModule? (m :: rest) = refusedModule? rest :=
          List.find?_cons_of_neg (by simp [hashable])
        rw [passed]
        cases refusedModule? rest <;> rfl

theorem set_cases (setting : Setting) :
    (∃ update, setting.Updates update ∧
        ∀ options : Options, options.set setting = .ok (update options)) ∨
      ∃ fault, setting.Refuses fault ∧ ∀ options : Options, options.set setting = .error fault := by
  cases setting with
  | name fileName =>
    cases truthy : fileName.isTruthy with
    | true => exact .inl ⟨_, .name truthy, fun _ => if_pos truthy⟩
    | false => exact .inr ⟨_, .argument .emptyFileName rfl, fun _ => if_neg (by simp [truthy])⟩
  | directory directory =>
    cases null : directory.isNull with
    | true => exact .inr ⟨_, .argument .nullDirectory rfl, fun _ => if_pos null⟩
    | false =>
      cases path : pathOf directory with
      | ok value => exact .inl ⟨_, .directory null path, fun _ => by simp [set, null, path]⟩
      | error m => exact .inr ⟨_, .directory path, fun _ => by simp [set, null, path]⟩
  | encryptionKey value =>
    cases checked : EncryptionKey.check value with
    | ok key => exact .inl ⟨_, .encryptionKey checked, fun _ => by simp [set, stage, checked]⟩
    | error failure =>
      obtain ⟨why, rfl, field⟩ := EncryptionKey.field_of_check checked
      exact .inr ⟨_, .argument why field, fun _ => by simp [set, stage, checked]⟩
  | schemaVersion value =>
    cases number : versionNumber? value with
    | some version => exact .inl ⟨_, .schemaVersion number, fun _ => by simp [set, number]⟩
    | none =>
      exact .inr ⟨_, .argument (.schemaVersion value) rfl, fun _ => by simp only [set, number]⟩
  | modules base more =>
    cases null : base.isNull with
    | true => exact .inr ⟨_, .argument .nullModule rfl, fun _ => if_pos null⟩
    | false =>
      have checked := checkModules_eq (base :: more)
      split at checked
      · next m _ =>
        exact .inr ⟨_, .argument (.unhashableModule m) rfl, fun _ => by
          simp [set, stage, null, checked]⟩
      · exact .inl ⟨_, .modules null checked, fun _ => by simp [set, stage, null, checked]⟩
  | reactiveFactory factory => exact .inl ⟨_, .reactiveFactory, fun _ => rfl⟩
  | initialData action =>
    cases allowed : action.isNull || action.isCallable with
    | true => exact .inl ⟨_, .initialData allowed, fun _ => if_pos allowed⟩
    | false =>
      exact .inr ⟨_, .argument .initialDataNotCallable rfl, fun _ => if_neg (by simp [allowed])⟩
  | inMemory => exact .inl ⟨_, .inMemory, fun _ => rfl⟩
  | errorHandler handler =>
    cases callable : handler.isCallable with
    | true => exact .inl ⟨_, .errorHandler callable, fun _ => if_pos callable⟩
    | false =>
      exact .inr ⟨_, .argument .errorHandlerNotCallable rfl, fun _ => if_neg (by simp [callable])⟩
  | waitForInitialRemoteData => exact .inl ⟨_, .waitForInitialRemoteData, fun _ => rfl⟩
  | readOnly => exact .inl ⟨_, .readOnly, fun _ => rfl⟩
  | deleteOnLogout => exact .inl ⟨_, .deleteOnLogout, fun _ => rfl⟩

end Options

namespace Setting.Updates

variable {setting : Setting} {update : Options → Options}

theorem update_without (updates : setting.Updates update) (options : Options) :
    update (options.without setting.key) = update options := by
  cases updates <;> rfl

theorem without_update (updates : setting.Updates update) (options : Options) :
    (update options).without setting.key = options.without setting.key := by
  cases updates <;> rfl

end Setting.Updates

/-! ## Setters step by step -/

namespace Builder

/-- A computation on a builder that may end in a fault. What it has assigned by then stays. -/
abbrev Staging := ExceptT Fault (StateM Builder)

namespace Staging

def refuse (why : ArgumentFault) : Staging Unit :=
  throw (.failure (.invalidArgument why))

def refuseIf (bad : Bool) (why : ArgumentFault) : Staging Unit :=
  if bad then refuse why else pure ()

def checkFresh : Staging Unit := do
  if (← get).consumed then throw (.failure .builderConsumed)

def assign (update : Options → Options) : Staging Unit :=
  modify fun builder => { builder with options := update builder.options }

/-- Takes over the result of a check that does not touch the builder. -/
def ofFailure {α : Type} : Except Failure α → Staging α
  | .ok a => pure a
  | .error failure => throw (.failure failure)

def checkModule (m : Value) : Staging Unit :=
  match m.unhashable? with
  | some _ => refuse (.unhashableModule m)
  | none => pure ()

/-- The arguments of a setter are checked one by one before its option is assigned. -/
def ofSetting : Setting → Staging Unit
  | .name fileName => do
    refuseIf (!fileName.isTruthy) .emptyFileName
    assign fun options => { options with fileName := fileName }
  | .directory directory => do
    refuseIf directory.isNull .nullDirectory
    match pathOf directory with
    | .ok path => assign fun options => { options with directory := path }
    | .error m => throw (.misuse m)
  | .encryptionKey key => do
    let key ← ofFailure (EncryptionKey.check key)
    assign fun options => { options with encryptionKey := some key }
  | .schemaVersion version => do
    match Options.versionNumber? version with
    | some n => assign fun options => { options with schemaVersion := n }
    | none => refuse (.schemaVersion version)
  | .modules base more => do
    refuseIf base.isNull .nullModule
    let modules := (base :: more).filter (!·.isNull)
    modules.forM checkModule
    assign fun options => { options with modules := some modules }
  | .reactiveFactory factory => assign fun options => { options with reactiveFactory := factory }
  | .initialData action => do
    refuseIf (!action.isNull && !action.isCallable) .initialDataNotCallable
    assign fun options => { options with initialData := action }
  | .inMemory => assign fun options => { options with durability := .memoryOnly }
  | .errorHandler handler => do
    refuseIf (!handler.isCallable) .errorHandlerNotCallable
    assign fun options => { options with errorHandler := handler }
  | .waitForInitialRemoteData =>
    assign fun options => { options with waitForInitialRemoteData := true }
  | .readOnly => assign fun options => { options with readOnly := true }
  | .deleteOnLogout => assign fun options => { options with deleteOnLogout := true }

end Staging

/-- The steps of a setter: that the builder is not consumed is checked before any argument. -/
def stage (setting : Setting) : Staging Unit := do
  Staging.checkFresh
  Staging.ofSetting setting

namespace Staging

theorem forM_checkModule_run (ms : List Value) (builder : Builder) :
    ((ms.filter (!·.isNull)).forM checkModule).run builder =
      match Options.refusedModule? ms with
      | some m => (.error (.failure (.invalidArgument (.unhashableModule m))), builder)
      | none => (.ok (), builder) := by
  induction ms with
  | nil => rfl
  | cons m rest ih =>
    cases null : m.isNull with
    | true => simpa [Options.refusedModule?, null] using ih
    | false =>
      have first : (m :: rest.filter (!·.isNull)).forM checkModule =
          checkModule m >>= fun _ => (rest.filter (!·.isNull)).forM checkModule := List.forM_cons ..
      rw [List.filter_cons_of_pos (by simp [null]), first, Run.bind_run, checkModule]
      cases hashable : m.unhashable? with
      | some typeName =>
        have found : Options.refusedModule? (m :: rest) = some m :=
          List.find?_cons_of_pos (by simp [null, hashable])
        rw [found]
        rfl
      | none =>
        have passed : Options.refusedModule? (m :: rest) = Options.refusedModule? rest :=
          List.find?_cons_of_neg (by simp [hashable])
        rw [passed]
        exact ih

theorem ofSetting_run (setting : Setting) (builder : Builder) :
    (ofSetting setting).run builder =
      match builder.options.set setting with
      | .ok next => (.ok (), { builder with options := next })
      | .error fault => (.error fault, builder) := by
  cases setting with
  | name fileName =>
    cases truthy : fileName.isTruthy <;> simp only [ofSetting, Options.set, truthy] <;> rfl
  | directory directory =>
    cases null : directory.isNull with
    | true => simp only [ofSetting, Options.set, null]; rfl
    | false =>
      cases path : pathOf directory <;> simp only [ofSetting, Options.set, null, path] <;> rfl
  | encryptionKey key =>
    cases checked : EncryptionKey.check key <;>
      simp only [ofSetting, Options.set, checked] <;> rfl
  | schemaVersion version =>
    cases number : Options.versionNumber? version <;>
      simp only [ofSetting, Options.set, number] <;> rfl
  | modules base more =>
    cases null : base.isNull with
    | true => simp only [ofSetting, Options.set, null]; rfl
    | false =>
      -- The option is assigned only after the last module has been checked.
      have steps : ofSetting (.modules base more) =
          (refuseIf base.isNull .nullModule >>= fun _ =>
            ((base :: more).filter (!·.isNull)).forM checkModule >>= fun _ =>
              assign fun options =>
                { options with modules := some ((base :: more).filter (!·.isNull)) }) := rfl
      rw [steps, refuseIf, null, if_neg Bool.false_ne_true, pure_bind, Run.bind_run,
        forM_checkModule_run, Options.set, null, if_neg Bool.false_ne_true, Options.checkModules_eq]
      cases Options.refusedModule? (base :: more) <;> rfl
  | reactiveFactory factory => rfl
  | initialData action =>
    cases null : action.isNull <;> cases callable : action.isCallable <;>
      simp only [ofSetting, Options.set, null, callable] <;> rfl
  | inMemory => rfl
  | errorHandler handler =>
    cases callable : handler.isCallable <;> simp only [ofSetting, Options.set, callable] <;> rfl
  | waitForInitialRemoteData => rfl
  | readOnly => rfl
  | deleteOnLogout => rfl

end Staging

/-- A setter is atomic: one that is refused, even halfway, leaves the builder as it was. -/
theorem stage_run (setting : Setting) (builder : Builder) :
    (stage setting).run builder =
      match builder.set setting with
      | .ok next => (.ok (), next)
      | .error fault => (.error fault, builder) := by
  have checked : Staging.checkFresh.run builder =
      if builder.consumed then (.error (.failure .builderConsumed), builder)
      else (.ok (), builder) := by
    show (ite (builder.consumed = true) _ _ : Staging Unit).run builder = _
    split <;> rfl
  by_cases consumed : builder.consumed = true
  · rw [stage, Run.bind_run, checked, set, if_pos consumed, if_pos consumed]
  · rw [stage, Run.bind_run, checked, set, if_neg consumed, if_neg consumed]
    refine (Staging.ofSetting_run setting builder).trans ?_
    cases builder.options.set setting <;> rfl

end Builder

end SyncedFile
