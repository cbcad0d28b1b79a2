import SyncedFile.FileTree.Directories

/-!
# Editing a tree

Writing files, setting links, removing entries, and listing what stands beneath a directory.
-/

namespace SyncedFile.FileTree

/-- The place where opening a path for writing would find or create a file. What is above the last
name has to be there; a link that leads nowhere is followed, at most `links` times. -/
def placeForWithin (links : Nat) (tree : FileTree) (path : Text) : Except Errno Place :=
  match tree.locate path with
  | .ok place => .ok place
  | .error .notFound =>
    let (head, name) := Path.split path
    if name = [] then .error .isDirectory
    else
      match tree.locate (if head = [] then ['.'] else head) with
      | .error errno => .error errno
      | .ok dir =>
        if tree.find? dir ≠ some .directory then .error .notDirectory
        else
          match links, tree.find? (dir ++ [name]) with
          | _, none => .ok (dir ++ [name])
          | links + 1, some (.link target) => placeForWithin links tree (Path.join head target)
          | _, some _ => .error .tooManyLinks
  | .error errno => .error errno

def placeFor (tree : FileTree) (path : Text) : Except Errno Place :=
  placeForWithin maxLinks tree path

/-- Puts text at the end of the file of a path, which is created if it is missing. None is created in
a sealed directory. -/
def append (tree : FileTree) (path content : Text) : Except Errno FileTree :=
  match tree.placeFor path with
  | .error errno => .error errno
  | .ok place =>
    match tree.find? place with
    | none =>
      match tree.seal? place.dropLast with
      | some found => .error found.errno
      | none => .ok (tree.insert place (.file content))
    | some (.file before) => .ok (tree.write place (before ++ content))
    | some _ => .error .isDirectory

def read? (tree : FileTree) (path : Text) : Option Text :=
  match tree.at? path with
  | some (.file content) => some content
  | _ => none

/-- Sets a symbolic link; a place that is taken stays as it is. -/
def addLink (tree : FileTree) (path target : Text) : FileTree :=
  match tree.locateEntry path, tree.placeFor path with
  | .error .notFound, .ok place => tree.insert place (.link target)
  | _, _ => tree

def remove (tree : FileTree) (path : Text) : FileTree :=
  match tree.locateEntry path with
  | .ok place => tree.erase place
  | .error _ => tree

def line (place : Place) (node : Node) : Text :=
  let path := Text.joinWith ['/'] place
  match node with
  | .directory => path ++ ['/']
  | .file _ => path
  | .link target => path ++ " -> " ++ target

def listing (tree : FileTree) (dir : Place) : List Text :=
  let beneath := tree.entries.filter fun entry =>
    dir.isPrefixOf entry.1 && entry.1.length != dir.length
  (beneath.map fun entry => line (entry.1.drop dir.length) entry.2).mergeSort Text.precedes

end SyncedFile.FileTree
