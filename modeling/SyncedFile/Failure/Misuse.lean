import SyncedFile.FileTree.Basic
import SyncedFile.Text.Points
import SyncedFile.Text.Quoted

/-!
# Misuse

Faults that are not failures of the domain: a value of the wrong kind, a locator without segments, a
file that cannot be opened. They are reported with a message alone.
-/

namespace SyncedFile

/-- A fault in the use of the library. -/
inductive Misuse where
  | noSegments
  | unresolvedPlaceholder (url : Text)
  | nulInPath
  | noIterations
  | negativeIterations
  | tooManyIterations
  /-- A text with halves of surrogate pairs in it has no octets in UTF-8. -/
  | unencodable (points : Points)
  | unknownLevel (level : Text)
  | notAPath (typeName : Text)
  /-- The address of a locator is put together with a host in octets. -/
  | hostInOctets
  /-- A name is expected where a value of another kind stands. -/
  | notJoinable (typeName : Text)
  | mixedPath
  | nameNotText (typeName : Text)
  | messageNotText (typeName : Text)
  | unhashable (typeName : Text)
  /-- A value cannot be taken the way in which it has to be. -/
  | lacks (typeName way : Text)
  | cannotOpen (errno : Errno) (path : Text)
  | immutable (field : Text)
  deriving DecidableEq

/-- Where a fault of a code lies: at a single thing, which is shown, or at a stretch of several. -/
def stretch (thing : Text) (shown : Option Text) (start stop : Int) : Text :=
  match shown with
  | some one =>
    thing ++ ' ' :: one ++ " in position " ++ Text.ofInt start
  | none =>
    thing ++ "s in position " ++ Text.ofInt start ++ '-' :: Text.ofInt (stop - 1)

/-- What keeps a row of code points from being written in UTF-8: the first halves in it. -/
def unencodableMessage (points : Points) : Text :=
  let (start, halves) := points.firstHalves
  let shown : Option Text :=
    match halves with
    | [half] => some ('\'' :: Points.escaped [half] ++ ['\''])
    | _ => none
  "'utf-8' codec can't encode "
    ++ stretch "character" shown start (start + halves.length) ++ ": surrogates not allowed"

def Misuse.message : Misuse → Text
  | noSegments => "path must contain at least one segment"
  | unresolvedPlaceholder url => "unresolved placeholder in " ++ url
  | nulInPath => Errno.reason .nulInPath
  | noIterations => "iterations must be greater than or equal to 1."
  | negativeIterations => "can't convert negative int to unsigned"
  | tooManyIterations => "int too big to convert"
  | unencodable points => unencodableMessage points
  | unknownLevel level => "Unknown log level: " ++ level
  | notAPath typeName => "expected str, bytes or os.PathLike object, not " ++ typeName
  | hostInOctets => "a bytes-like object is required, not 'str'"
  | notJoinable typeName =>
    "join() argument must be str, bytes, or os.PathLike object, not " ++ Text.quoted typeName
  | mixedPath => "Can't mix strings and bytes in path components"
  | nameNotText typeName => "can only concatenate str (not \"" ++ typeName ++ "\") to str"
  | messageNotText typeName => "__str__ returned non-string (type " ++ typeName ++ ")"
  | unhashable typeName => "unhashable type: '" ++ typeName ++ "'"
  | lacks typeName way => '\'' :: typeName ++ "' object has no attribute " ++ Text.quoted way
  | cannotOpen errno path =>
    "[Errno " ++ Text.ofNat errno.number ++ "] " ++ errno.reason ++ ": " ++ Text.quoted path
  | immutable field => "cannot assign to field " ++ Text.quoted field

end SyncedFile
