import SyncedFile.FileTree.Walk

/-!
# Making directories

A directory is made together with those above it that are missing. A directory that is there
already is a success. Nothing is made in a sealed directory.

* `makeDirectory` — one directory;
* `makeDirectories` — with the ones above;
* `permits` — whether what a path leads to can be written to;
* `prepareDirectory` — the directory made ready for a file: there, a directory, and writable.
-/

namespace SyncedFile

/-- Why a directory cannot be made ready. -/
inductive DirectoryFault where
  | isFile
  | refused (errno : Errno)
  | unwritable
  deriving DecidableEq

def DirectoryFault.reason : DirectoryFault → Text
  | isFile => "path is a file, not a directory"
  | refused errno => errno.reason
  | unwritable => "directory is not writable"

namespace FileTree

/-- Makes one directory: what is above the path's last name has to be there and not be sealed, and
nothing may stand under the name itself. -/
def makeDirectory (tree : FileTree) (path : Text) : Except Errno FileTree :=
  if path = [] then .error .notFound
  else if '\x00' ∈ path then .error .nulInPath
  else if maxPath < Text.byteLength path then .error .nameTooLong
  else
    let pieces := ((Text.splitOn '/' path).reverse.dropWhile (· = [])).reverse
    match pieces.getLast? with
    | none => .error .occupied
    | some name =>
      match walk tree true maxLinks (tree.start path) (pieces.dropLast ++ [[]]) with
      | .error errno => .error errno
      | .ok above =>
        if name = ['.'] ∨ name = ['.', '.'] then .error .occupied
        else if maxName < Text.byteLength name then .error .nameTooLong
        else if (tree.find? (above ++ [name])).isSome then .error .occupied
        else
          -- The seal is looked at last, so that a directory that is there counts as there.
          match tree.seal? above with
          | some found => .error found.errno
          | none => .ok (tree.insert (above ++ [name]) .directory)

/-- The path of the directory above, and the last name, not counting a slash at the end. -/
def above (path : Text) : Text × Text :=
  let (head, tail) := Path.split path
  if tail = [] then Path.split head else (head, tail)

/-- What making directories leaves: the tree, and the refusal if it came to one. -/
abbrev Made := Option Errno × FileTree

/-- Makes the directory of a path, and before it those above that are missing, at most `depth` of
them. A refusal with `occupied` further up is passed over, as another one will follow. -/
def makeDirectoriesWithin (depth : Nat) (tree : FileTree) (path : Text) : Made :=
  match depth with
  | 0 => (none, tree)
  | depth + 1 =>
    let (head, tail) := above path
    let missing := head ≠ [] ∧ tail ≠ [] ∧ !tree.reaches head
    let (refusal, tree) := if missing then makeDirectoriesWithin depth tree head else (none, tree)
    if refusal.isSome ∧ refusal ≠ some .occupied then (refusal, tree)
    else if missing ∧ tail = ['.'] then (none, tree)
    else
      match tree.makeDirectory path with
      | .ok tree => (none, tree)
      -- What stands in the way may be the directory itself, or a link to one.
      | .error errno => if tree.isDirectory path then (none, tree) else (some errno, tree)

def makeDirectories (tree : FileTree) (path : Text) : Made :=
  tree.makeDirectoriesWithin (path.length + 1) path

def permits (tree : FileTree) (path : Text) : Bool :=
  match tree.locate path with
  | .ok place => (tree.find? place).isSome && (tree.seal? place).isNone
  | .error _ => false

/-- Makes the directory of a path ready for files. For the paths in `readOnly` the system says that
they cannot be written to, however the directories are sealed. -/
def prepareDirectory (tree : FileTree) (readOnly : List Text) (path : Text) :
    Option DirectoryFault × FileTree :=
  if tree.isFile path then (some .isFile, tree)
  else
    match tree.makeDirectories path with
    | (some errno, tree) => (some (.refused errno), tree)
    | (none, tree) =>
      if path ∈ readOnly ∨ !tree.permits path then (some .unwritable, tree) else (none, tree)

end FileTree
end SyncedFile
