import SyncedFile.Text.Basic

/-!
# File trees

A tree of directories, files and symbolic links, kept as a list of entries, each under the list of
names that leads to it from the top. The top itself is always a directory. Directories that cannot be
written to are sealed.

* `find?`, `insert`, `erase` — the entries;
* `Seal`, `seal?` — directories that cannot be written to;
* `Errno` — why the system refuses an operation.
-/

namespace SyncedFile

/-- Why the system refuses an operation on the tree. -/
inductive Errno where
  | notFound
  | denied
  | occupied
  | notDirectory
  | isDirectory
  | readOnlySystem
  | nameTooLong
  | tooManyLinks
  /-- The path holds a NUL, so it cannot even be handed to the system. -/
  | nulInPath
  deriving DecidableEq

namespace Errno

/-- The system's number for a refusal. -/
def number : Errno → Nat
  | notFound => 2
  | denied => 13
  | occupied => 17
  | notDirectory => 20
  | isDirectory => 21
  | readOnlySystem => 30
  | nameTooLong => 36
  | tooManyLinks => 40
  | nulInPath => 22

def reason : Errno → Text
  | notFound => "No such file or directory"
  | denied => "Permission denied"
  | occupied => "File exists"
  | notDirectory => "Not a directory"
  | isDirectory => "Is a directory"
  | readOnlySystem => "Read-only file system"
  | nameTooLong => "File name too long"
  | tooManyLinks => "Too many levels of symbolic links"
  | nulInPath => "embedded null byte"

end Errno

/-- Why a directory cannot be written to: its owner grants no writing, or it lies on a file system that
is only read. -/
inductive Seal where
  | denied
  | readOnlySystem
  deriving DecidableEq

def Seal.errno : Seal → Errno
  | denied => .denied
  | readOnlySystem => .readOnlySystem

theorem Seal.errno_ne_nulInPath (found : Seal) : found.errno ≠ .nulInPath := by
  cases found <;> exact nofun

/-- What stands at a place in the tree. -/
inductive Node where
  | directory
  | file (content : Text)
  | link (target : Text)
  deriving DecidableEq

/-- The names that lead from the top of the tree to a place. -/
abbrev Place := List Text

/-- A tree as its entries, the directory that relative paths start from, and the directories that
cannot be written to. -/
structure FileTree where
  entries : List (Place × Node) := []
  working : Place := []
  seals : List (Place × Seal) := []
  deriving DecidableEq

namespace FileTree

def find? (tree : FileTree) (place : Place) : Option Node :=
  if place = [] then some .directory
  else (tree.entries.find? (·.1 = place)).map (·.2)

/-- Why nothing can be made in the directory at a place, if it is sealed. -/
def seal? (tree : FileTree) (place : Place) : Option Seal :=
  (tree.seals.find? (·.1 = place)).map (·.2)

def erase (tree : FileTree) (place : Place) : FileTree :=
  { tree with entries := tree.entries.filter fun entry => !place.isPrefixOf entry.1 }

def insert (tree : FileTree) (place : Place) (node : Node) : FileTree :=
  { tree with entries := tree.entries ++ [(place, node)] }

def write (tree : FileTree) (place : Place) (content : Text) : FileTree :=
  { tree with
    entries := tree.entries.map fun entry =>
      if entry.1 = place then (place, .file content) else entry }

@[simp] theorem find?_nil (tree : FileTree) : tree.find? [] = some .directory := rfl

theorem find?_insert_of_ne {tree : FileTree} {place other : Place} {node : Node}
    (h : other ≠ place) : (tree.insert place node).find? other = tree.find? other := by
  simp [find?, insert, List.find?_append, Ne.symm h]

end FileTree
end SyncedFile
