import SyncedFile.FileTree.Walk

/-!
# Canonical paths

The absolute path of a file with its symbolic links resolved. Parts that do not exist are kept as
they are. A link that is met again on the way through itself is not resolved, and neither is what
comes after it.

* `Waypoint` — where the resolution has come to;
* `resolve` — follows the pieces of a path;
* `canonical` — the absolute path with links resolved.
-/

namespace SyncedFile

/-- Where the resolution of a path has come to: names that lead on from the top or, as long as no
absolute link has been met, from the working directory, where `..` may lead further up. -/
structure Waypoint where
  anchored : Bool
  names : List Text
  deriving DecidableEq

namespace Waypoint

def text (waypoint : Waypoint) : Text :=
  (if waypoint.anchored then ['/'] else []) ++ Text.joinWith ['/'] waypoint.names

def down (waypoint : Waypoint) (name : Text) : Waypoint :=
  { waypoint with names := waypoint.names ++ [name] }

def up (waypoint : Waypoint) : Waypoint :=
  let above : Text := ['.', '.']
  if !waypoint.anchored && (waypoint.names.getLast?.all (· = above)) then waypoint.down above
  else { waypoint with names := waypoint.names.dropLast }

def place (tree : FileTree) (waypoint : Waypoint) : Place :=
  waypoint.names.foldl (fun place name =>
    if name = ['.', '.'] then place.dropLast else place ++ [name])
    (if waypoint.anchored then [] else tree.working)

/-- The target of the link that stands there, if one does. -/
def link? (tree : FileTree) (waypoint : Waypoint) : Option Text :=
  match tree.find? (waypoint.place tree) with
  | some (.link target) =>
    if Text.byteLength waypoint.text ≤ FileTree.maxPath then some target else none
  | _ => none

end Waypoint

namespace FileTree

/-- What is left to do while links are resolved. -/
inductive Step where
  /-- Take a piece of a path. -/
  | piece (name : Text)
  /-- A link has been followed to its end; what was found is remembered for it. -/
  | found (link : Waypoint)

/-- The path with the pieces of all levels that are left put after it; `level` are those of the
innermost one, in reverse. -/
def unresolved (path : Text) : List Step → List Text → Text
  | [], level => Path.join path (Text.joinWith ['/'] level.reverse)
  | .found _ :: rest, level =>
    unresolved (Path.join path (Text.joinWith ['/'] level.reverse)) rest []
  | .piece name :: rest, level => unresolved path rest (name :: level)

/-- Follows `steps` from a waypoint to the path that they lead to. Links that have been met are
remembered with the waypoint they lead to, or with none while they are being followed. -/
def resolve (tree : FileTree) (fuel : Nat) (met : List (Waypoint × Option Waypoint))
    (here : Waypoint) (steps : List Step) : Text :=
  match fuel with
  | 0 => here.text
  | fuel + 1 =>
    match steps with
    | [] => here.text
    | .found link :: rest => resolve tree fuel ((link, some here) :: met) here rest
    | .piece name :: rest =>
      if name = [] ∨ name = ['.'] then resolve tree fuel met here rest
      else if name = ['.', '.'] then resolve tree fuel met here.up rest
      else
        let next := here.down name
        match next.link? tree with
        | none => resolve tree fuel met next rest
        | some target =>
          match met.find? (·.1 = next) with
          | some (_, some known) => resolve tree fuel met known rest
          -- The link is met again on the way through itself.
          | some (_, none) => unresolved next.text rest []
          | none =>
            resolve tree fuel ((next, none) :: met)
              (if Path.isAbsolute target then ⟨true, []⟩ else here)
              ((Text.splitOn '/' target).map .piece ++ .found next :: rest)

/-- Enough steps to resolve a path of so many pieces: each link is followed at most once from the
top, and once from as far up the working directory as a path can lead. -/
def resolveFuel (tree : FileTree) (pieces : Nat) : Nat :=
  tree.entries.foldl (fun steps entry =>
    match entry.2 with
    | .link target => steps + maxPath * ((Text.splitOn '/' target).length + 2)
    | _ => steps) (pieces + 1)

def workingText (tree : FileTree) : Text :=
  '/' :: Text.joinWith ['/'] tree.working

def canonical (tree : FileTree) (path : Text) : Text :=
  let pieces := Text.splitOn '/' path
  Path.absolute tree.workingText
    (tree.resolve (tree.resolveFuel pieces.length) [] ⟨Path.isAbsolute path, []⟩
      (pieces.map .piece))

end FileTree
end SyncedFile
