import SyncedFile.Locator.Basic
import SyncedFile.Locator.Origin

/-!
# Normalising raw identifiers

A raw identifier is an absolute URI or one that is relative to the place where the owner has
authenticated. Normalising it gives a locator: the scheme and the host that are missing come from
the origin, the schemes of the web stand for the ones of remote files, and every segment is checked.

An origin in octets has no host that could stand in the address of a locator, so an identifier that
needs it is refused once its path has been checked.
-/

namespace SyncedFile.Locator

def isUriChar (c : Char) : Bool :=
  c.isAlphanum || c ∈ "-._~:/?#[]@!$&'()*+,;=%".toList

def hasUriChars (t : Text) : Bool :=
  let body := Text.dropFinal '\n' t
  !body.isEmpty && body.all isUriChar

def webSchemes : List (Text × Text) :=
  [("http", plainScheme), ("https", secureScheme)]

def schemeFor (scheme : Text) (origin : Option Origin) : Text :=
  if scheme = [] then
    if origin.any Origin.isSecure then secureScheme else plainScheme
  else
    let scheme := Text.lower scheme
    match webSchemes.find? (·.1 = scheme) with
    | some entry => entry.2
    | none => scheme

/-- The segments without a first one that names the host, where others follow it. -/
def dropHost (host : Text) : List Text → List Text
  | first :: second :: more => if first = host then second :: more else first :: second :: more
  | segments => segments

theorem dropHost_ne_nil {host : Text} {segments : List Text} (h : segments ≠ []) :
    dropHost host segments ≠ [] := by
  fun_cases dropHost host segments <;> simp_all

def pathSegments (uri : Uri) : List Text :=
  Text.splitOn '/' (if uri.path.head? = some '/' then uri.path.tail else uri.path)

/-- The segments for a locator at a host; a path that names the host first does so for lack of an
authority. -/
def segmentsFor (uri : Uri) (host : Text) : List Text :=
  if uri.authority = [] then dropHost host (pathSegments uri) else pathSegments uri

theorem pathSegments_ne_nil (uri : Uri) : pathSegments uri ≠ [] :=
  Text.splitOn_ne_nil _ _

theorem segmentsFor_ne_nil (uri : Uri) (host : Text) : segmentsFor uri host ≠ [] := by
  rw [segmentsFor]
  split
  · exact dropHost_ne_nil (pathSegments_ne_nil uri)
  · exact pathSegments_ne_nil uri

def readUri (raw : Text) : Except Uri.Fault (Uri × Option Nat) := do
  let uri ← Uri.split raw
  let port ← uri.port?
  return (uri, port)

/-- A locator of a raw identifier, if its segments and the file name that it gives are in order. -/
def checked (raw : Text) (locator : Locator) : Except Failure Locator := do
  Segment.checkAll (.text raw) locator.path
  match locator.defaultFileName? with
  | some name => Segment.checkSuffix name
  | none => pure ()
  return locator

/-- The locator of a URI that has passed all checks but those of its segments. -/
def assemble (raw : Text) (uri : Uri) (port : Option Nat) (origin : Option Origin) (host : Text) :
    Except Failure Locator :=
  checked raw {
    scheme := .text (schemeFor uri.scheme origin)
    host := host
    path := segmentsFor uri host
    port := (port.map fun n => Value.int n).getD .null
    query := .text uri.query
    fragment := .text uri.fragment
    userinfo := (uri.userinfo?.map Value.text).getD .null
    path_ne_nil := segmentsFor_ne_nil uri host }

/-- The host that a URI lacks would be one in octets. -/
def needsOctets (uri : Uri) (origin : Option Origin) : Bool :=
  uri.host?.isNone && origin.any Origin.inOctets

/-- What is wrong with a URI that would need a host in octets, which no segment names: a segment, the
file name, or else that the address cannot be put together. -/
def faultInOctets (raw : Text) (uri : Uri) : Fault :=
  -- Only the path of this locator is looked at.
  match checked raw {
    scheme := .null
    host := []
    path := pathSegments uri
    path_ne_nil := pathSegments_ne_nil uri } with
  | .error failure => .failure failure
  | .ok _ => .misuse .hostInOctets

def normalizeText (raw : Text) (origin : Option Origin) : Except Fault Locator :=
  if !hasUriChars raw then .error (.failure (.malformed (.text raw) .forbiddenCharacter))
  else
    match readUri raw with
    | .error fault => .error (.failure (.malformed (.text raw) (.unreadable fault)))
    | .ok (uri, port) =>
      if uri.scheme ≠ [] ∧ uri.authority = [] ∧ uri.path.head? ≠ some '/' then
        .error (.failure (.malformed (.text raw) .withoutAuthority))
      else if origin = none ∧ (uri.scheme = [] ∨ uri.host? = none) then
        .error (.failure (.missingField .authOrigin))
      else if uri.path = [] ∨ uri.path = ['/'] then
        .error (.failure (.malformed (.text raw) .withoutPath))
      else if needsOctets uri origin then .error (faultInOctets raw uri)
      else
        (assemble raw uri port origin
          (uri.host?.getD ((origin.map Origin.host).getD []))).mapError .failure

/-- The locator of a raw identifier. The origin is consulted only for what the identifier lacks. -/
def normalize (raw : Value) (origin : Option Origin) : Except Fault Locator :=
  match raw with
  | .text [] => .error (.failure (.malformed raw .notText))
  | .text t => normalizeText t origin
  | _ => .error (.failure (.malformed raw .notText))

end SyncedFile.Locator
