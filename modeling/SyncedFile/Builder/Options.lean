import SyncedFile.EncryptionKey
import SyncedFile.Surroundings

/-!
# Options

The options that a builder collects. Each setting stages one option or is refused; options are held
against each other only when the configuration is built.

* `Options` — the staged options;
* `Setting` — one call of a setter with its arguments;
* `Options.set` — what a setting does.
-/

namespace SyncedFile

/-- How a local file is kept. -/
inductive Durability where
  | full
  | memoryOnly
  deriving DecidableEq

namespace Durability

/-- The value that stands for a durability in descriptions. -/
def name : Durability → Text
  | full => "full"
  | memoryOnly => "mem_only"

def literal : Durability → Text
  | full => "<Durability.FULL: 'full'>"
  | memoryOnly => "<Durability.MEM_ONLY: 'mem_only'>"

end Durability

/-- Options staged by a builder; null stands for an option that is not set. -/
structure Options where
  directory : Value := .null
  fileName : Value := .null
  encryptionKey : Option EncryptionKey := none
  schemaVersion : Nat := 0
  modules : Option (List Value) := none
  initialData : Value := .null
  durability : Durability := .full
  readOnly : Bool := false
  waitForInitialRemoteData : Bool := false
  errorHandler : Value := .null
  reactiveFactory : Value := .null
  deleteOnLogout : Bool := false

/-- A call of a setter. -/
inductive Setting where
  | name (fileName : Value)
  | directory (directory : Value)
  | encryptionKey (key : Value)
  | schemaVersion (version : Value)
  | modules (base : Value) (more : List Value)
  | reactiveFactory (factory : Value)
  | initialData (action : Value)
  | inMemory
  | errorHandler (handler : Value)
  | waitForInitialRemoteData
  | readOnly
  | deleteOnLogout

namespace Options

def versionNumber? : Value → Option Nat
  | .int i => if 0 ≤ i then some i.toNat else none
  | _ => none

def checkModules : List Value → Except Failure (List Value)
  | [] => .ok []
  | m :: rest =>
    if m.isNull then checkModules rest
    else
      match m.unhashable? with
      | some _ => .error (.invalidArgument (.unhashableModule m))
      | none => (checkModules rest).map (m :: ·)

def stage {α : Type} (checked : Except Failure α) (update : α → Options) : Except Fault Options :=
  match checked with
  | .ok a => .ok (update a)
  | .error failure => .error (.failure failure)

/-- The options after a setting. A refused setting changes nothing. -/
def set (options : Options) : Setting → Except Fault Options
  | .name fileName =>
    if fileName.isTruthy then .ok { options with fileName := fileName }
    else .error (.failure (.invalidArgument .emptyFileName))
  | .directory directory =>
    if directory.isNull then .error (.failure (.invalidArgument .nullDirectory))
    else
      match pathOf directory with
      | .ok path => .ok { options with directory := path }
      | .error m => .error (.misuse m)
  | .encryptionKey key =>
    stage (EncryptionKey.check key) fun key => { options with encryptionKey := some key }
  | .schemaVersion version =>
    match versionNumber? version with
    | some n => .ok { options with schemaVersion := n }
    | none => .error (.failure (.invalidArgument (.schemaVersion version)))
  | .modules base more =>
    if base.isNull then .error (.failure (.invalidArgument .nullModule))
    else stage (checkModules (base :: more)) fun ms => { options with modules := some ms }
  | .reactiveFactory factory => .ok { options with reactiveFactory := factory }
  | .initialData action =>
    if action.isNull || action.isCallable then .ok { options with initialData := action }
    else .error (.failure (.invalidArgument .initialDataNotCallable))
  | .inMemory => .ok { options with durability := .memoryOnly }
  | .errorHandler handler =>
    if handler.isCallable then .ok { options with errorHandler := handler }
    else .error (.failure (.invalidArgument .errorHandlerNotCallable))
  | .waitForInitialRemoteData => .ok { options with waitForInitialRemoteData := true }
  | .readOnly => .ok { options with readOnly := true }
  | .deleteOnLogout => .ok { options with deleteOnLogout := true }

/-- A read-only file has no initial data and waits for its remote data. -/
def checkReadOnly (options : Options) : Except Failure Unit :=
  if options.readOnly then
    if !options.initialData.isNull then .error (.readOnlyConflict .initialData)
    else if !options.waitForInitialRemoteData then .error (.readOnlyConflict .noRemoteData)
    else .ok ()
  else .ok ()

end Options
end SyncedFile
