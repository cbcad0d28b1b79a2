import SyncedFile.FileTree.Basic
import SyncedFile.Path.Lexical

/-!
# Walking a path through a tree

The way the system finds what a path names: component by component, through symbolic links, of
which it follows at most forty.

* `walk` — from a directory along the pieces of a path;
* `locate`, `locateEntry` — from a path as text;
* `isFile`, `isDirectory`, `reaches` — what a path leads to.
-/

namespace SyncedFile.FileTree

def maxLinks : Nat := 40

def maxName : Nat := 255

def maxPath : Nat := 4095

/-- One walk with the links left to follow handled by `again`, which is given the place to go on
from and the pieces to take. With `last` a link at the very end is followed as well. -/
def walkUsing (tree : FileTree) (last : Bool)
    (again : Place → List Text → Except Errno Place) :
    Place → List Text → Except Errno Place
  | dir, [] => .ok dir
  | dir, piece :: rest =>
    if piece = [] ∨ piece = ['.'] then walkUsing tree last again dir rest
    else if piece = ['.', '.'] then walkUsing tree last again dir.dropLast rest
    else if maxName < Text.byteLength piece then .error .nameTooLong
    else
      let place := dir ++ [piece]
      match tree.find? place with
      | none => .error .notFound
      | some .directory => walkUsing tree last again place rest
      | some (.file _) => if rest = [] then .ok place else .error .notDirectory
      -- A slash at the end leaves an empty piece, so the link before it is followed.
      | some (.link target) =>
        if rest = [] ∧ !last then .ok place
        else again (if Path.isAbsolute target then [] else dir) (Text.splitOn '/' target ++ rest)

def walk (tree : FileTree) (last : Bool) : Nat → Place → List Text → Except Errno Place
  | 0 => walkUsing tree last fun _ _ => .error .tooManyLinks
  | links + 1 => walkUsing tree last (walk tree last links)

def start (tree : FileTree) (path : Text) : Place :=
  if Path.isAbsolute path then [] else tree.working

/-- The place at the end of a walk along a path as text; with `last` a link at the very end is
followed as well. -/
def locateUsing (tree : FileTree) (last : Bool) (path : Text) : Except Errno Place :=
  if path = [] then .error .notFound
  else if '\x00' ∈ path then .error .nulInPath
  else if maxPath < Text.byteLength path then .error .nameTooLong
  else walk tree last maxLinks (tree.start path) (Text.splitOn '/' path)

def locate (tree : FileTree) (path : Text) : Except Errno Place :=
  tree.locateUsing true path

def locateEntry (tree : FileTree) (path : Text) : Except Errno Place :=
  tree.locateUsing false path

def at? (tree : FileTree) (path : Text) : Option Node :=
  match tree.locate path with
  | .ok place => tree.find? place
  | .error _ => none

def isFile (tree : FileTree) (path : Text) : Bool :=
  match tree.at? path with
  | some (.file _) => true
  | _ => false

def isDirectory (tree : FileTree) (path : Text) : Bool :=
  match tree.at? path with
  | some .directory => true
  | _ => false

def reaches (tree : FileTree) (path : Text) : Bool :=
  (tree.at? path).isSome

end SyncedFile.FileTree
