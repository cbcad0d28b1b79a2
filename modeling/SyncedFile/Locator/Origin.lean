import SyncedFile.Failure.Basic
import SyncedFile.Uri.Authority

/-!
# Origins

The place where an owner has authenticated, as far as a locator may need it: a scheme and a host.
-/

namespace SyncedFile

/-- Where an owner has authenticated. -/
structure Origin where
  scheme : Text
  host : Text
  /-- The address was given in octets, and so are the fields. -/
  inOctets : Bool := false
  deriving DecidableEq

namespace Origin

/-- The first octet outside ASCII, with its position. -/
def firstBeyondAscii? (bytes : List UInt8) : Option (Nat × UInt8) :=
  match bytes.findIdx? (128 ≤ ·.toNat) with
  | some i => bytes[i]?.map (i, ·)
  | none => none

def beyondAscii (position : Nat) (byte : UInt8) : Text :=
  "'ascii' codec can't decode byte 0x" ++ Text.Hex.octet byte ++ " in position "
    ++ Text.ofNat position ++ ": ordinal not in range(128)"

/-- The origin of an address given as text; `url` is the address as it was given. -/
def ofText (url : Value) (text : Text) : Except Failure Origin :=
  match Uri.split text with
  | .error fault => .error (.invalidArgument (.unreadableOrigin fault.reason url))
  | .ok uri =>
    match uri.host? with
    | some host =>
      if uri.scheme = [] then .error (.invalidArgument (.incompleteOrigin url))
      else .ok { scheme := uri.scheme, host := host }
    | none => .error (.invalidArgument (.incompleteOrigin url))

def ofOctets (url : Value) (bytes : List UInt8) : Except Failure Origin :=
  match firstBeyondAscii? bytes with
  | some (position, byte) =>
    .error (.invalidArgument (.unreadableOrigin (beyondAscii position byte) url))
  | none => do
    let origin ← ofText url (bytes.map fun b => Char.ofNat b.toNat)
    return { origin with inOctets := true }

/-- The origin of an authentication address such as `https://auth.example.com/auth`. An address that
can be edited is refused. -/
def ofUrl (url : Value) : Except Fault Origin :=
  match url.unhashable? with
  | some typeName => .error (.misuse (.unhashable typeName))
  | none =>
    match url with
    | .text text => (ofText url text).mapError .failure
    | .octets .fixed bytes => (ofOctets url bytes).mapError .failure
    | url =>
      if url.isTruthy then .error (.misuse (.lacks url.typeName "decode"))
      else .error (.failure (.invalidArgument (.incompleteOrigin url)))

/-- The origin was asked over a secure connection of the web. A scheme in octets names none. -/
def isSecure (origin : Origin) : Bool :=
  !origin.inOctets && Text.lower origin.scheme == "https".toList

/-- A field of the origin, in the form in which the address was given. -/
def field (origin : Origin) (t : Text) : Value :=
  if origin.inOctets then .octets .fixed (Text.utf8 t) else .text t

def literal (origin : Origin) : Text :=
  "AuthOrigin(scheme=" ++ (origin.field origin.scheme).literal ++ ", host="
    ++ (origin.field origin.host).literal ++ ")"

end Origin
end SyncedFile
