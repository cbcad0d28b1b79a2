import SyncedFile.Builder.Options
import SyncedFile.Builder.Owner
import SyncedFile.FileTree.Canonical
import SyncedFile.Value.Equality

/-!
# Configurations

The outcome of a build: everything that is fixed about a synced file. Two configurations are equal
when all their fields are, so they can stand for the files that are open.

* `Configuration` — the fields, and what follows from them;
* `describe`, `literal` — without the encryption key;
* `equals`, `distinct` — comparing by value.
-/

namespace SyncedFile

def canonicalPath (tree : FileTree) (directory fileName : Text) : Except Misuse Text :=
  let path := Path.join directory fileName
  if '\x00' ∈ path then .error .nulInPath else .ok (tree.canonical path)

/-- The configuration of a file that is kept in step with a server. -/
structure Configuration where
  directory : Text
  fileName : Text
  canonicalPath : Text
  encryptionKey : Option EncryptionKey
  schemaVersion : Nat
  /-- The schema modules, no two of them equal. -/
  schema : List Value
  durability : Durability
  initialData : Value
  readOnly : Bool
  reactiveFactory : Value
  owner : Owner
  identity : Identity
  remoteLocator : ResolvedLocator
  errorHandler : Value
  deleteOnLogout : Bool
  waitForInitialRemoteData : Bool

namespace Configuration

def serverUrl (c : Configuration) : Text :=
  c.remoteLocator.url

def lockPath (c : Configuration) : Text :=
  c.canonicalPath ++ ".lock"

def managementPath (c : Configuration) : Text :=
  c.canonicalPath ++ ".management"

def inMemory (c : Configuration) : Bool :=
  c.durability == .memoryOnly

def schemaLiterals (c : Configuration) : List Text :=
  (Value.literals c.schema).mergeSort Text.precedes

def schemaLiteral (c : Configuration) : Text :=
  if c.schema.isEmpty then "frozenset()"
  else "frozenset(\x7b" ++ Text.joinWith ", " (Value.literals c.schema) ++ "\x7d)"

/-- What diagnostics show of a configuration, in order. Of the key they show only whether there is
one. -/
def describe (c : Configuration) : List (Text × Value) :=
  [("directory", .text c.directory),
    ("file_name", .text c.fileName),
    ("canonical_path", .text c.canonicalPath),
    ("encrypted", .bool c.encryptionKey.isSome),
    ("schema_version", .int c.schemaVersion),
    ("schema", .list (c.schemaLiterals.map .text)),
    ("durability", .text c.durability.name),
    ("has_initial_data", .bool !c.initialData.isNull),
    ("read_only", .bool c.readOnly),
    ("identity", .text c.identity.text),
    ("server_url", .text c.serverUrl),
    ("delete_on_logout", .bool c.deleteOnLogout),
    ("wait_for_initial_remote_data", .bool c.waitForInitialRemoteData)]

def literal (c : Configuration) : Text :=
  Locator.recordLiteral "SyncConfiguration"
    [("directory", Text.quoted c.directory),
      ("file_name", Text.quoted c.fileName),
      ("canonical_path", Text.quoted c.canonicalPath),
      ("schema_version", Text.ofNat c.schemaVersion),
      ("schema", c.schemaLiteral),
      ("durability", c.durability.literal),
      ("initial_data", c.initialData.literal),
      ("read_only", (Value.bool c.readOnly).literal),
      ("reactive_factory", c.reactiveFactory.literal),
      ("owner", c.owner.literal),
      ("identity", Text.quoted c.identity.text),
      ("remote_locator", (Address.resolved c.remoteLocator).literal),
      ("error_handler", c.errorHandler.literal),
      ("delete_on_logout", (Value.bool c.deleteOnLogout).literal),
      ("wait_for_initial_remote_data", (Value.bool c.waitForInitialRemoteData).literal)]

def equals (c d : Configuration) : Bool :=
  c.directory == d.directory && c.fileName == d.fileName && c.canonicalPath == d.canonicalPath
    && c.encryptionKey == d.encryptionKey && c.schemaVersion == d.schemaVersion
    && Value.sameElements c.schema d.schema && c.durability == d.durability
    && c.initialData.equals d.initialData && c.readOnly == d.readOnly
    && c.reactiveFactory.equals d.reactiveFactory && c.owner.equals d.owner
    && c.identity.text == d.identity.text
    && c.remoteLocator.toLocator.equals d.remoteLocator.toLocator
    && c.errorHandler.equals d.errorHandler && c.deleteOnLogout == d.deleteOnLogout
    && c.waitForInitialRemoteData == d.waitForInitialRemoteData

def unhashable? (c : Configuration) : Option Text :=
  (c.reactiveFactory.unhashable?.or c.owner.unhashable?).or c.errorHandler.unhashable?

def distinct (cs : List Configuration) : Except Misuse Nat :=
  match cs.findSome? unhashable? with
  | some typeName => .error (.unhashable typeName)
  | none =>
    .ok (cs.foldl (fun kept c => if kept.any (·.equals c) then kept else kept ++ [c]) []).length

end Configuration
end SyncedFile
