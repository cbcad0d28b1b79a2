import Std.Time.DateTime.Timestamp
import SyncedFile.CommandLine.Run

/-!
# The command line

The outer layer of the command line: it reads clock, environment and random octets, lets a run say
what to do, and does it. A run is made twice where it asks for a directory: the first one tells
which, and the second one knows what came of making it.
-/

namespace SyncedFile.CommandLine

/-- The value of a variable of the environment, unless it is blank. -/
def setting? (name : String) : IO (Option Text) := do
  match ← IO.getEnv name with
  | some value => return if value.toList.all Text.isBlank then none else some value.toList
  | none => return none

def dataDirectory : IO Text := do
  match ← setting? "XDG_DATA_HOME" with
  | some directory => return directory
  | none => return Path.join ((← setting? "HOME").getD ['/']) ".local/share"

def moment : IO Log.Moment := do
  let now ← Std.Time.Timestamp.now
  let millis := now.toMillisecondsSinceUnixEpoch.val
  return .ofNumbers (millis.fdiv 1000) (millis.fmod 1000)

def environment : IO Environment := do
  let octets ← IO.getRandomBytes (EncryptionKey.length.toUSize)
  return {
    dataDirectory := ← dataDirectory
    moment := ← moment
    random := octets.toList.take
    terminal := ((← setting? "COLUMNS").bind Text.digits?).getD 80 }

def directoryFault : IO.Error → DirectoryFault
  | .alreadyExists .. => .isFile
  | .inappropriateType .. => .refused .notDirectory
  | .noFileOrDirectory .. => .refused .notFound
  | .invalidArgument .. => .refused .nameTooLong
  | .permissionDenied _ number _ =>
    .refused (if number.toNat = Errno.readOnlySystem.number then .readOnlySystem else .denied)
  | _ => .unwritable

def makeDirectory (path : Text) : IO (Except DirectoryFault Text) := do
  try
    IO.FS.createDirAll (String.ofList path)
    return .ok (← IO.FS.realPath (String.ofList path)).toString.toList
  catch refusal => return .error (directoryFault refusal)

def placeOf (path : Text) : Place :=
  (Text.splitOn '/' path).filter (· ≠ [])

def bareTree : IO FileTree := do
  return { working := placeOf (← IO.currentDir).toString.toList }

/-- What a run leaves after the directory that it asked for has been made. -/
def outcomeAfter (environment : Environment) (arguments : List Points) (tree : FileTree)
    (path : Text) : IO Outcome := do
  match ← makeDirectory path with
  | .error fault =>
    let refuse (path : Text) : Run Unit := Run.fail (.directoryUnusable (.text path) fault)
    return run { environment with ensureDirectory := refuse } arguments { tree := tree }
  | .ok found =>
    let announce (path : Text) : Run Unit := Run.emit (.directoryReady (.text path))
    let tree := if found = path then tree else tree.insert (placeOf path) (.link found)
    return run { environment with ensureDirectory := announce } arguments { tree := tree }

def outcome (arguments : List Points) : IO Outcome := do
  let environment ← environment
  let tree ← bareTree
  let first := run { environment with ensureDirectory := fun _ => pure () } arguments
    { tree := tree }
  let asked := first.surroundings.calls.findSome? fun
    | .ensureDirectory path => some path
    | _ => none
  match asked with
  | none => return first
  | some path => outcomeAfter environment arguments tree path

end SyncedFile.CommandLine

def main (arguments : List String) : IO UInt32 := do
  let outcome ← SyncedFile.CommandLine.outcome (arguments.map fun argument =>
    SyncedFile.Text.points argument.toList)
  IO.print (String.ofList outcome.out)
  IO.eprint (String.ofList outcome.err)
  if let some misuse := outcome.misuse then
    IO.eprintln (String.ofList misuse.message)
  return outcome.exitCode.toUInt32
