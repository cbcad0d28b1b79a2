import SyncedFile.Locator.Segment
import SyncedFile.Value.Equality

/-!
# Locators

A locator is the absolute address of a remote file: scheme, host, the segments of the path, and
what else a URI may carry. Where a locator is made of parts, those that are only shown may be values
of any kind. A resolved locator has no placeholder among its segments: every one has been replaced by
an identity, and all else has stayed.

* `Locator.url` — the address as text;
* `Locator.ofSegments?`, `ResolvedLocator.ofLocator?` — making a locator of any parts;
* `Locator.resolve` — a locator for an identity;
* `Address` — a locator of either kind; two kinds are never equal.
-/

namespace SyncedFile

/-- The address of a remote file. The path has at least one segment. -/
structure Locator where
  scheme : Value
  host : Text
  path : List Text
  port : Value := .null
  query : Value := .text []
  fragment : Value := .text []
  userinfo : Value := .null
  path_ne_nil : path ≠ []

namespace Locator

def plainScheme : Text := "realm"

def secureScheme : Text := "realms"

def pathText (locator : Locator) : Text :=
  '/' :: Text.joinWith ['/'] locator.path

/-- The host as it stands in an address: in brackets if it holds a colon. -/
def hostText (locator : Locator) : Text :=
  if ':' ∈ locator.host then '[' :: locator.host ++ [']'] else locator.host

def authority (locator : Locator) : Text :=
  (if locator.userinfo.isTruthy then locator.userinfo.plain ++ ['@'] else [])
    ++ locator.hostText
    ++ (if locator.port.isNull then [] else ':' :: locator.port.plain)

def url (locator : Locator) : Text :=
  locator.scheme.plain ++ "://" ++ locator.authority ++ locator.pathText
    ++ (if locator.query.isTruthy then '?' :: locator.query.plain else [])
    ++ (if locator.fragment.isTruthy then '#' :: locator.fragment.plain else [])

def isSecure (locator : Locator) : Bool :=
  locator.scheme.text? == some secureScheme

def hasPlaceholder (locator : Locator) : Bool :=
  Segment.placeholder ∈ locator.path

def lastSegment (locator : Locator) : Text :=
  locator.path.getLast locator.path_ne_nil

/-- The file name that a locator gives: its last segment, unless that is the placeholder. -/
def defaultFileName? (locator : Locator) : Option Text :=
  if locator.lastSegment = Segment.placeholder then none else some locator.lastSegment

def fields (locator : Locator) : List (Text × Value) :=
  [("scheme", locator.scheme),
    ("host", .text locator.host),
    ("path", .tuple (locator.path.map .text)),
    ("port", locator.port),
    ("query", locator.query),
    ("fragment", locator.fragment),
    ("userinfo", locator.userinfo)]

def equals (l m : Locator) : Bool :=
  l.scheme.equals m.scheme && l.host == m.host && l.path == m.path && l.port.equals m.port
    && l.query.equals m.query && l.fragment.equals m.fragment && l.userinfo.equals m.userinfo

def unhashable? (locator : Locator) : Option Text :=
  Value.unhashableIn? (locator.fields.map (·.2))

def recordLiteral (name : Text) (fields : List (Text × Text)) : Text :=
  name ++ '(' :: Text.joinWith ", " (fields.map fun field => field.1 ++ '=' :: field.2) ++ ")"

def literal (name : Text) (locator : Locator) : Text :=
  recordLiteral name (locator.fields.map fun field => (field.1, field.2.literal))

def ofSegments? (scheme : Value) (host : Text) (path : List Text)
    (port query fragment userinfo : Value) : Except Misuse Locator :=
  if h : path ≠ [] then
    .ok {
      scheme := scheme
      host := host
      path := path
      port := port
      query := query
      fragment := fragment
      userinfo := userinfo
      path_ne_nil := h }
  else .error .noSegments

end Locator

/-- The address of a remote file of a known identity. -/
structure ResolvedLocator extends Locator where
  resolved : Segment.placeholder ∉ path

namespace ResolvedLocator

/-- A locator as a resolved one, if it has no placeholder. -/
def ofLocator? (locator : Locator) : Except Misuse ResolvedLocator :=
  if h : Segment.placeholder ∉ locator.path then .ok { locator with resolved := h }
  else .error (.unresolvedPlaceholder locator.url)

end ResolvedLocator

namespace Locator

/-! ## Resolving placeholders -/

def fill (identity : Text) (segment : Text) : Text :=
  if segment = Segment.placeholder then identity else segment

theorem placeholder_notMem_map_fill {identity : Text} (h : identity ≠ Segment.placeholder)
    (path : List Text) : Segment.placeholder ∉ path.map (fill identity) := by
  intro mem
  obtain ⟨segment, -, eq⟩ := List.mem_map.1 mem
  by_cases hs : segment = Segment.placeholder <;> simp_all [fill]

def substitute (locator : Locator) (identity : Identity) : ResolvedLocator where
  scheme := locator.scheme
  host := locator.host
  path := locator.path.map (fill identity.text)
  port := locator.port
  query := locator.query
  fragment := locator.fragment
  userinfo := locator.userinfo
  path_ne_nil := by simp [locator.path_ne_nil]
  resolved := placeholder_notMem_map_fill identity.text_ne_placeholder locator.path

/-- The locator for an identity. It may be missing only where there is no placeholder, and it is
checked even there. -/
def resolve (locator : Locator) (identity : Value) : Except Failure ResolvedLocator :=
  if identity.isTruthy then
    match Identity.check identity with
    | .ok identity => .ok (locator.substitute identity)
    | .error failure => .error failure
  else if h : Segment.placeholder ∉ locator.path then .ok { locator with resolved := h }
  else .error (.missingIdentity locator.url .placeholder)

end Locator

/-! ## Addresses -/

/-- A locator of either kind. -/
inductive Address where
  | remote (locator : Locator)
  | resolved (locator : ResolvedLocator)

namespace Address

def locator : Address → Locator
  | remote locator => locator
  | resolved locator => locator.toLocator

def kindName : Address → Text
  | remote _ => "RemoteLocator"
  | resolved _ => "ResolvedIdentifier"

def equals : Address → Address → Bool
  | remote l, remote m => l.equals m
  | resolved l, resolved m => l.toLocator.equals m.toLocator
  | _, _ => false

/-- For each address the position of the first that it compares equal to. Where that is none of
those before it, it is its own. -/
def firstEqual (addresses : List Address) : List Nat :=
  addresses.zipIdx.map fun (a, i) =>
    ((addresses.take i).findIdx? a.equals).getD i

def literal (address : Address) : Text :=
  address.locator.literal address.kindName

end Address
end SyncedFile
