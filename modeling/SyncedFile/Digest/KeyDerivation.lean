import SyncedFile.Digest.Sha512

/-!
# Keys from passwords

A key of 64 octets from a password and a salt, by the scheme PBKDF2 with HMAC over SHA-512: the
keyed digest is taken many times over, and all its outcomes are combined.

Main statement: a derived key has 64 octets (`length_derive`).
-/

namespace SyncedFile.Digest

open Sha512 (State)

/-- The two states that a keyed digest starts from: of the inner digest and of the outer one. -/
structure Keyed where
  inner : State
  outer : State

namespace Keyed

/-- The key in one block: a long key is replaced by its digest, and zeros fill the rest. -/
def block (key : List UInt8) : List UInt8 :=
  let short := if 128 < key.length then Sha512.octets (Sha512.digest key) else key
  short ++ List.replicate (128 - short.length) 0

def padState (pad : UInt8) (key : List UInt8) : State :=
  Sha512.absorb Sha512.initial (Sha512.words ((block key).map (· ^^^ pad)))

def ofKey (key : List UInt8) : Keyed where
  inner := padState 0x36 key
  outer := padState 0x5c key

def finishWords (s w : State) : State :=
  Sha512.compress s w.a w.b w.c w.d w.e w.f w.g w.h 0x8000000000000000 0 0 0 0 0 0 1536

def digest (keyed : Keyed) (message : List UInt8) : State :=
  finishWords keyed.outer (Sha512.finish keyed.inner 128 message)

def digestWords (keyed : Keyed) (w : State) : State :=
  finishWords keyed.outer (finishWords keyed.inner w)

end Keyed

/-- Takes the keyed digest so many times more and combines the outcomes. -/
def iterate (keyed : Keyed) : Nat → State → State → State
  | 0, _, combined => combined
  | more + 1, last, combined =>
    let next := keyed.digestWords last
    iterate keyed more next (combined.xor next)

/-- The key for a password and a salt; `iterations` counts from one. -/
def derive (password salt : List UInt8) (iterations : Nat) : List UInt8 :=
  let keyed := Keyed.ofKey password
  let first := keyed.digest (salt ++ [0, 0, 0, 1])
  Sha512.octets (iterate keyed (iterations - 1) first first)

@[simp] theorem length_derive (password salt : List UInt8) (iterations : Nat) :
    (derive password salt iterations).length = 64 :=
  Sha512.length_octets _

end SyncedFile.Digest
