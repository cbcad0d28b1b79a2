import SyncedFile.Configuration
import SyncedFile.LocalPath
import SyncedFile.Locator.Normalize

/-!
# Builders

A builder collects options for a synced file and builds its configuration once. After that it is
consumed, whether the build came to a result or not.

* `Defaults` — what the surroundings of a builder provide;
* `Builder.make`, `Builder.set` — a new builder, and settings;
* `derivePlan`, `preparePlan` — the local path of a locator, with its directory made ready;
* `Builder.build` — the configuration, and the event that closes the build.
-/

namespace SyncedFile

/-- What a builder is given by its surroundings. -/
structure Defaults where
  root : Value
  schema : List Value := []
  errorHandler : Value := .null
  reactiveFactory : Value := .null
  /-- Whether reactive streams are available; asked for at most once in a build. -/
  reactiveAvailable : Bool := false
  /-- Makes a directory ready. -/
  ensureDirectory : Text → Run Unit := fun path => SyncedFile.ensureDirectory (.text path)

namespace Defaults

/-- The folder of the application under the platform's data directory. -/
def application : Text := "realm-sync-config"

def folder : Text := "realm-object-server"

/-- What the surroundings of a builder provide unless told otherwise: synced files are kept under
the platform's data directory. -/
def standard (dataDirectory : Text) : Defaults where
  root := .path (Path.pure (dataDirectory ++ '/' :: application ++ '/' :: folder))

end Defaults

/-! ## Local paths -/

def LocalPath.Fallback.event (fallback : LocalPath.Fallback) : Log.Event :=
  .pathFallback (.text fallback.strategy.name) (.text fallback.fullPath) (.int fallback.limit)

def Surroundings.working (s : Surroundings) : Text :=
  s.tree.workingText

/-- The root directory that a value stands for, absolute and in normal form. -/
def rootOf (working : Text) (root : Value) : Except Misuse Text :=
  match pathOf root with
  | .error m => .error m
  | .ok (.text t) => .ok (Path.absolute working t)
  | .ok _ => .error .mixedPath

/-- The identity that a local directory is named for. -/
def checkOwnerIdentity (url : Text) (identity : Value) : Except Failure Identity :=
  if identity.isTruthy then Identity.check identity
  else .error (.missingIdentity url .directory)

/-- A file name that takes the place of the locator's own. -/
def fileNameOf (locator : Locator) : Value → Except Misuse Text
  | .null => .ok locator.lastSegment
  | .text t => .ok t
  | value => .error (.nameNotText value.typeName)

/-- The local path of a locator for an identity, with its directory made ready as the last step. -/
def preparePlan (locator : Locator) (root : Value) (who : Identity) (fileName : Value)
    (budget : LocalPath.Budget) (ensure : Text → Run Unit) : Run LocalPath.Plan := do
  let s ← get
  let root ← Run.ofMisuse (rootOf s.working root)
  let name ← Run.ofMisuse (fileNameOf locator fileName)
  let choice := LocalPath.choose locator.path root who.text name budget
  Run.emitAll (choice.fallbacks.map LocalPath.Fallback.event)
  let plan ← Run.ofFailure choice.result
  Run.record (.ensureDirectory plan.directory)
  ensure plan.directory
  return plan

/-- The local path of a locator for a value that may be an identity. -/
def derivePlan (locator : Locator) (root identity fileName : Value) (budget : LocalPath.Budget)
    (ensure : Text → Run Unit) : Run LocalPath.Plan := do
  let who ← Run.ofFailure (checkOwnerIdentity locator.url identity)
  preparePlan locator root who fileName budget ensure

/-! ## Builders and their settings -/

/-- A builder: its owner and locator, as far as they are given, and the options staged so far. -/
structure Builder where
  owner : Option Owner
  locator : Option Locator
  defaults : Defaults
  options : Options := {}
  consumed : Bool := false

/-- The event of a raw identifier that has been normalised. -/
def Locator.normalizedEvent (raw : Value) (locator : Locator) : Log.Event :=
  .locatorNormalized raw (.text locator.url)

namespace Builder

/-- A new builder. The owner has to be authenticated, and the raw identifier to be a locator. -/
def make (owner : Option Owner) (raw : Value) (origin : Option Origin) (defaults : Defaults) :
    Run Builder := do
  match owner with
  | some owner => Run.ofFailure owner.check
  | none => pure ()
  if raw.isNull then
    return { owner := owner, locator := none, defaults := defaults }
  else
    let locator ← Run.ofFault (Locator.normalize raw origin)
    Run.emit (locator.normalizedEvent raw)
    return { owner := owner, locator := some locator, defaults := defaults }

/-- The builder after a setting. A consumed one refuses every setting, whatever its arguments. -/
def set (builder : Builder) (setting : Setting) : Except Fault Builder :=
  if builder.consumed then .error (.failure .builderConsumed)
  else
    match builder.options.set setting with
    | .ok options => .ok { builder with options := options }
    | .error fault => .error fault

/-! ## Building -/

/-- The factory for reactive streams: the one that is set, or else the default one where reactive
streams are available. -/
def chooseFactory (builder : Builder) : Run Value :=
  if !builder.options.reactiveFactory.isNull then pure builder.options.reactiveFactory
  else if builder.defaults.reactiveFactory.isNull then pure .null
  else do
    Run.record .reactiveCheck
    return if builder.defaults.reactiveAvailable then builder.defaults.reactiveFactory else .null

def root (builder : Builder) : Value :=
  if builder.options.directory.isNull then builder.defaults.root else builder.options.directory

def schema (builder : Builder) : Except Misuse (List Value) :=
  let modules := builder.options.modules.getD builder.defaults.schema
  match Value.unhashableIn? modules with
  | some typeName => .error (.unhashable typeName)
  | none => .ok (Value.distinct modules)

/-- The handler of errors: the one that is set, unless it counts as absent, or else the default. -/
def errorHandler (builder : Builder) : Value :=
  if builder.options.errorHandler.isTruthy then builder.options.errorHandler
  else builder.defaults.errorHandler

/-- Puts the configuration together, in a fixed order: what is required is there, the options go
together, the identity is read once, reactive streams are asked for, and the directory is made. -/
def assemble (builder : Builder) : Run (Configuration × LocalPath.Plan) := do
  let some locator := builder.locator | Run.fail (.missingField .url)
  let some owner := builder.owner | Run.fail (.missingField .owner)
  Run.ofFailure builder.options.checkReadOnly
  -- The only read of the identity: the locator, the directory and the configuration share it.
  let identity ← owner.readIdentity
  if locator.hasPlaceholder && !identity.isTruthy then
    Run.fail (.missingIdentity locator.url .building)
  let factory ← builder.chooseFactory
  let resolved ← Run.ofFailure (locator.resolve identity)
  let who ← Run.ofFailure (checkOwnerIdentity resolved.url identity)
  let plan ← preparePlan resolved.toLocator builder.root who builder.options.fileName .standard
    builder.defaults.ensureDirectory
  -- Making the directory may have changed the tree that links are resolved in.
  let s ← get
  let canonical ← Run.ofMisuse (canonicalPath s.tree plan.directory plan.fileName)
  let schema ← Run.ofMisuse builder.schema
  let configuration : Configuration := {
    directory := plan.directory
    fileName := plan.fileName
    canonicalPath := canonical
    encryptionKey := builder.options.encryptionKey
    schemaVersion := builder.options.schemaVersion
    schema := schema
    durability := builder.options.durability
    initialData := builder.options.initialData
    readOnly := builder.options.readOnly
    reactiveFactory := factory
    owner := owner
    identity := who
    remoteLocator := resolved
    errorHandler := builder.errorHandler
    deleteOnLogout := builder.options.deleteOnLogout
    waitForInitialRemoteData := builder.options.waitForInitialRemoteData }
  return (configuration, plan)

def builtEvent (configuration : Configuration) (plan : LocalPath.Plan) : Log.Event :=
  .configurationBuilt (.text configuration.serverUrl) (.text configuration.canonicalPath)
    (.text plan.strategy.name) (.bool configuration.readOnly)

def failedEvent (builder : Builder) (failure : Failure) : Log.Event :=
  .buildFailed ((builder.locator.map fun locator => Value.text locator.url).getD .null)
    failure.kind.name failure.line

/-- The configuration of a builder that has not been consumed, and the event that closes the build.
A fault that is no failure leaves no event. -/
def finish (builder : Builder) : Run Configuration := do
  try
    let (configuration, plan) ← builder.assemble
    Run.emit (builtEvent configuration plan)
    return configuration
  catch fault =>
    match fault with
    | .failure failure =>
      Run.emit (builder.failedEvent failure)
      throw fault
    | .misuse _ => throw fault

/-- Builds the configuration. The builder is consumed afterwards, whatever came of it. -/
def build (builder : Builder) (s : Surroundings) :
    Except Fault Configuration × Builder × Surroundings :=
  if builder.consumed then (.error (.failure .builderConsumed), builder, s)
  else
    let (result, s) := (builder.finish).run s
    (result, { builder with consumed := true }, s)

end Builder
end SyncedFile
