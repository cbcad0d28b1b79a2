import SyncedFile.Failure.Basic

/-!
# Path segments

The grammar of a path segment: one or more of the ASCII letters, digits, `.`, `_` and `-`, and one
line break may follow. The segments `.` and `..` are refused, and the placeholder `~` stands for the
identity of whoever opens the file.

* `isSegment`, `placeholder` — the grammar;
* `checkAll` — refuses the first bad segment of a path;
* `Identity` — a text that can stand in for the placeholder;
* `checkSuffix` — refuses file names that end as the storage engine's own files do.
-/

namespace SyncedFile

namespace Segment

def placeholder : Text := ['~']

def isSegmentChar (c : Char) : Bool :=
  c.isAlphanum || c == '_' || c == '-' || c == '.'

def isSegment (t : Text) : Bool :=
  let body := Text.dropFinal '\n' t
  !body.isEmpty && body.all isSegmentChar

def isRelative (t : Text) : Bool :=
  t == ['.'] || t == ['.', '.']

def check (raw : Value) (segment : Text) : Except Failure Unit :=
  if segment = placeholder then .ok ()
  else if isRelative segment then .error (.relativeSegment segment raw)
  else if isSegment segment then .ok ()
  else .error (.illegalSegment segment raw)

def checkAll (raw : Value) : List Text → Except Failure Unit
  | [] => .ok ()
  | segment :: rest =>
    match check raw segment with
    | .error failure => .error failure
    | .ok () => checkAll raw rest

def reservedSuffixes : List Text :=
  [".realm", ".realm.lock", ".realm.management"]

def checkSuffix (fileName : Text) : Except Failure Unit :=
  match reservedSuffixes.find? (·.isSuffixOf fileName) with
  | some suffix => .error (.reservedSuffix fileName suffix)
  | none => .ok ()

/-- A text can be an identity: one segment, neither the placeholder nor a relative reference. -/
def isIdentity (t : Text) : Bool :=
  t != placeholder && !isRelative t && isSegment t

end Segment

/-- An identity that can stand in for a placeholder segment and name a directory. -/
structure Identity where
  text : Text
  valid : Segment.isIdentity text = true

namespace Identity

def ofValue? : Value → Option Identity
  | .text t => if h : Segment.isIdentity t = true then some ⟨t, h⟩ else none
  | _ => none

def check (value : Value) : Except Failure Identity :=
  match ofValue? value with
  | some identity => .ok identity
  | none => .error (.invalidArgument (.identity value))

theorem text_ne_placeholder (identity : Identity) : identity.text ≠ Segment.placeholder := by
  have h := identity.valid
  simp only [Segment.isIdentity, Bool.and_eq_true, bne_iff_ne] at h
  exact h.1.1

end Identity
end SyncedFile
