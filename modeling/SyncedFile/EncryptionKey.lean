import SyncedFile.Digest.KeyDerivation
import SyncedFile.Failure.Basic

/-!
# Encryption keys

A key is a row of 64 octets. It is handed in, drawn at random, or derived from a password.

* `EncryptionKey.check` — refuses values that are no key;
* `EncryptionKey.derive` — the key for a password and a salt;
* `EncryptionKey.drawKey`, `EncryptionKey.drawSalt` — random octets.
-/

namespace SyncedFile

/-- A key of 64 octets. -/
structure EncryptionKey where
  bytes : List UInt8
  length_bytes : bytes.length = 64
  deriving DecidableEq

namespace EncryptionKey

def length : Nat := 64

def saltLength : Nat := 16

def iterations : Nat := 100000

def check (value : Value) : Except Failure EncryptionKey :=
  match value with
  | .null => .error (.invalidArgument .nullKey)
  | .octets _ bytes =>
    if h : bytes.length = 64 then .ok ⟨bytes, h⟩
    else .error (.invalidArgument (.keyLength bytes.length))
  | value => .error (.invalidArgument (.keyNotOctets value.typeName))

/-- Iterations are counted in 64 bits. -/
def iterationLimit : Int := 18446744073709551616

/-- The key for a password, which is taken in UTF-8, and a salt. Neither may be empty. -/
def derive (password : Points) (salt : List UInt8) (iterations : Int) :
    Except Fault EncryptionKey :=
  if password = [] then .error (.failure (.invalidArgument .emptyPassword))
  else if salt = [] then .error (.failure (.invalidArgument .emptySalt))
  else if iterations < 0 then .error (.misuse .negativeIterations)
  else if iterationLimit ≤ iterations then .error (.misuse .tooManyIterations)
  else if iterations = 0 then .error (.misuse .noIterations)
  else
    match password.text? with
    | none => .error (.misuse (.unencodable password))
    | some password =>
      .ok ⟨Digest.derive (Text.utf8 password) salt iterations.toNat, Digest.length_derive _ _ _⟩

def drawKey (random : Nat → List UInt8) : List UInt8 :=
  random length

def drawSalt (random : Nat → List UInt8) : List UInt8 :=
  random saltLength

end EncryptionKey
end SyncedFile
