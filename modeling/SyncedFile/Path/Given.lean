import SyncedFile.Failure.Misuse
import SyncedFile.FileTree.Canonical
import SyncedFile.Value.Literal

/-!
# Paths as they are handed in

A path may be handed in as a text, as a path value, or as fixed octets. A path of octets stays one,
and is not put together with one of characters.

* `pathOf`, `pathText?` — the path that a value stands for;
* `joinPaths` — a directory and a name as one path;
* `canonicalOf` — the absolute path of a file with its links resolved.
-/

namespace SyncedFile

/-- The path that a value stands for: a text, a path, or fixed octets, which stay octets. -/
def pathOf (value : Value) : Except Misuse Value :=
  match value with
  | .text t => .ok (.text t)
  | .path t => .ok (.text t)
  | .octets .fixed bytes => .ok (.octets .fixed bytes)
  | value => .error (.notAPath value.typeName)

def utf8Text? (bytes : List UInt8) : Option Text :=
  (String.fromUTF8? ⟨bytes.toArray⟩).map String.toList

/-- The text of a path that may be given in octets; octets that are no UTF-8 give none. -/
def pathText? : Value → Option Text
  | .text t => some t
  | .path t => some t
  | .octets .fixed bytes => utf8Text? bytes
  | _ => none

/-- A change of a text, made to its octets. Where they are no UTF-8 each octet is a character. -/
def inOctets (change : Text → Text) (bytes : List UInt8) : List UInt8 :=
  match utf8Text? bytes with
  | some t => Text.utf8 (change t)
  | none => (change (bytes.map fun b => Char.ofNat b.toNat)).map fun c => UInt8.ofNat c.toNat

def joinOctets (directory name : List UInt8) : List UInt8 :=
  let slash := UInt8.ofNat '/'.toNat
  if name.head? = some slash then name
  else if directory.isEmpty || directory.getLast? == some slash then directory ++ name
  else directory ++ slash :: name

def joinPaths (directory name : Value) : Except Misuse Value := do
  let directory ← pathOf directory
  match directory, name with
  | .text directory, .text name | .text directory, .path name =>
    return .text (Path.join directory name)
  | .octets _ directory, .octets .fixed name => return .octets .fixed (joinOctets directory name)
  | .text _, .octets .fixed _ | .octets _ _, .text _ => throw .mixedPath
  | _, name => throw (.notJoinable name.typeName)

/-- The absolute path of a file with its links resolved, in the form in which directory and name
were handed in. -/
def canonicalOf (tree : FileTree) (directory name : Value) : Except Misuse Value := do
  match ← joinPaths directory name with
  | .octets _ bytes =>
    if (0 : UInt8) ∈ bytes then throw .nulInPath
    else return .octets .fixed (inOctets tree.canonical bytes)
  | path =>
    if '\x00' ∈ path.plain then throw .nulInPath else return .text (tree.canonical path.plain)

end SyncedFile
