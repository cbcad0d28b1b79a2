import SyncedFile.Failure.Basic
import SyncedFile.Log.Event
import SyncedFile.Path.Given

/-!
# Surroundings of a build

What a build can touch: the file tree, the collaborators it calls, and the events it leaves. A run
is a computation over them that may end in a fault; whatever it has done by then stays done.

* `Surroundings`, `Call`, `Run` — the state, its record of calls, and computations over it;
* `ensureDirectory` — the usual way of making a directory ready.
-/

namespace SyncedFile

/-- The owner of a synced file: a fixed identity and whether it is authenticated, one whose identity
may read differently each time, known by a name, or a value that is no owner. -/
inductive Owner where
  | fixed (identity authenticated : Value)
  | varying (name : Text) (identities : List Value) (authenticated : Value)
  | other (value : Value)

/-- A call of something outside the builder. -/
inductive Call where
  | identityRead (owner : Owner)
  | reactiveCheck
  | ensureDirectory (path : Text)

/-- What a build can touch. Calls and events are kept in order, the earliest first. -/
structure Surroundings where
  tree : FileTree := {}
  /-- Paths, as they are written, for which the system says that they cannot be written to. -/
  readOnly : List Text := []
  calls : List Call := []
  events : List Log.Event := []

/-- A computation over the surroundings that may end in a fault. -/
abbrev Run := ExceptT Fault (StateM Surroundings)

namespace Run

def emit (event : Log.Event) : Run Unit :=
  modify fun s => { s with events := s.events ++ [event] }

def emitAll (events : List Log.Event) : Run Unit :=
  modify fun s => { s with events := s.events ++ events }

def record (call : Call) : Run Unit :=
  modify fun s => { s with calls := s.calls ++ [call] }

def fail {α : Type} (failure : Failure) : Run α :=
  throw (.failure failure)

def misuse {α : Type} (misuse : Misuse) : Run α :=
  throw (.misuse misuse)

def ofFailure {α : Type} : Except Failure α → Run α
  | .ok a => pure a
  | .error failure => fail failure

def ofMisuse {α : Type} : Except Misuse α → Run α
  | .ok a => pure a
  | .error m => misuse m

def ofFault {α : Type} : Except Fault α → Run α
  | .ok a => pure a
  | .error fault => throw fault

end Run

/-- Makes the directory of a path ready: a directory that is there already is a success, and one
that cannot be made or written to is a failure. -/
def ensureDirectory (path : Value) : Run Unit := do
  match pathText? path with
  | none => Run.misuse (.notAPath path.typeName)
  | some text =>
    let s ← get
    let (fault, tree) := s.tree.prepareDirectory s.readOnly text
    set { s with tree := tree }
    match fault with
    | some (.refused .nulInPath) => Run.misuse .nulInPath
    | some why => Run.fail (.directoryUnusable path why)
    | none => Run.emit (.directoryReady path)

end SyncedFile
