import SyncedFile.Text.Basic

/-!
# Paths as text

What can be said about a path without looking at any file tree: joining, the split into head and
tail, and the normal form, in which no component is empty, `.` or a `..` that could be undone. A
path that starts with exactly two slashes keeps both; three or more are one.

* `join`, `split` — putting a name under a directory, and taking the last name off;
* `slashes`, `collapse`, `normalize` — the normal form;
* `absolute` — the normal form under a working directory;
* `pure` — the form in which path values are kept, where `..` stays.
-/

namespace SyncedFile.Path

def isAbsolute (p : Text) : Bool :=
  p.head? == some '/'

/-- The path of `name` as seen from `dir`; an absolute `name` stands for itself. -/
def join (dir name : Text) : Text :=
  if isAbsolute name then name
  else if dir.isEmpty || dir.getLast? == some '/' then dir ++ name
  else dir ++ '/' :: name

def joinAll (dir : Text) (names : List Text) : Text :=
  names.foldl join dir

/-- The number of slashes that a normal form of the path starts with. -/
def slashes (p : Text) : Nat :=
  match p with
  | '/' :: '/' :: '/' :: _ => 1
  | '/' :: '/' :: _ => 2
  | '/' :: _ => 1
  | _ => 0

/-- Steps through components and keeps, last one first, those of the normal form. Where the path
is `anchored` at the top, `..` leads no further up than there. -/
def collapse (anchored : Bool) (kept : List Text) : List Text → List Text
  | [] => kept.reverse
  | name :: rest =>
    if name = [] ∨ name = ['.'] then collapse anchored kept rest
    else if name = ['.', '.'] then
      match kept with
      | [] => collapse anchored (if anchored then [] else [name]) rest
      | last :: before =>
        if last = ['.', '.'] then collapse anchored (name :: kept) rest
        else collapse anchored before rest
    else collapse anchored (name :: kept) rest

def components (p : Text) : List Text :=
  collapse (slashes p != 0) [] (Text.splitOn '/' p)

def normalize (p : Text) : Text :=
  let normal := List.replicate (slashes p) '/' ++ Text.joinWith ['/'] (components p)
  if normal.isEmpty then ['.'] else normal

def absolute (working p : Text) : Text :=
  normalize (if isAbsolute p then p else join working p)

/-- The path up to its last slash, without the slashes at the end unless it holds nothing else,
and the name after it. -/
def split (p : Text) : Text × Text :=
  match Text.cutLast '/' p with
  | (none, name) => ([], name)
  | (some before, name) =>
    let head := before ++ ['/']
    let bare := (head.reverse.dropWhile (· == '/')).reverse
    (if bare.isEmpty then head else bare, name)

def pure (p : Text) : Text :=
  let names := (Text.splitOn '/' p).filter fun name => name ≠ [] ∧ name ≠ ['.']
  let kept := List.replicate (slashes p) '/' ++ Text.joinWith ['/'] names
  if kept.isEmpty then ['.'] else kept

end SyncedFile.Path
