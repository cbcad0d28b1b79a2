/-!
# Binary floating-point numbers

A number of 64 bits, taken apart into sign, significand and exponent, so that everything said about
it is said in whole numbers.
-/

namespace SyncedFile

/-- A floating-point number: `finite negative significand exponent` is
`± significand · 2 ^ exponent`. Several NaNs are told apart by their marks. -/
inductive Binary64 where
  | nan (mark : Nat)
  | infinite (negative : Bool)
  | finite (negative : Bool) (significand : Nat) (exponent : Int)
  deriving DecidableEq

namespace Binary64

/-- The leading bit of every significand that is not close to zero; it is not written. -/
def hiddenBit : Nat := 1 <<< 52

/-- The number that a pattern of 64 bits stands for: one bit of sign, eleven of exponent, and the
fraction. -/
def ofBits (bits : UInt64) : Binary64 :=
  let negative := bits >>> 63 == 1
  let biased := (bits >>> 52 &&& 0x7FF).toNat
  let fraction := (bits &&& 0xFFFFFFFFFFFFF).toNat
  if biased = 2047 then
    if fraction = 0 then infinite negative else nan 0
  else if biased = 0 then finite negative fraction (-1074)
  else finite negative (hiddenBit + fraction) ((biased : Int) - 1075)

def numerator (significand : Nat) (exponent : Int) : Nat :=
  significand <<< exponent.toNat

def denominator (exponent : Int) : Nat :=
  1 <<< (-exponent).toNat

def isZero : Binary64 → Bool
  | finite _ significand _ => significand == 0
  | _ => false

/-- The number is marked as negative; so is the negative zero. -/
def isNegative : Binary64 → Bool
  | finite negative _ _ => negative
  | infinite negative => negative
  | nan _ => false

def signedNumerator (negative : Bool) (significand : Nat) (exponent : Int) : Int :=
  if negative then -numerator significand exponent else numerator significand exponent

def isInt (x : Binary64) (i : Int) : Bool :=
  match x with
  | finite negative significand exponent =>
    signedNumerator negative significand exponent == i * denominator exponent
  | _ => false

def truncate? : Binary64 → Option Int
  | finite negative significand exponent =>
    let n : Int := (numerator significand exponent / denominator exponent : Nat)
    some (if negative then -n else n)
  | _ => none

def floor? (x : Binary64) : Option Int :=
  x.truncate?.map fun i => if x.isNegative && !x.isInt i then i - 1 else i

/-- A natural number rounded to 53 binary digits, a half to the even neighbour: the significand and
the exponent. -/
def roundNat (n : Nat) : Nat × Nat :=
  let dropped := n.log2 + 1 - 53
  let unit := 1 <<< dropped
  let up := unit < 2 * (n % unit) ∨ (unit = 2 * (n % unit) ∧ n / unit % 2 = 1)
  (n / unit + (if up then 1 else 0), dropped)

/-- The floating-point number nearest to an integer, unless that lies beyond the largest one. -/
def ofInt? (i : Int) : Option Binary64 :=
  let (significand, exponent) := roundNat i.natAbs
  if significand <<< exponent < 1 <<< 1024 then some (finite (i < 0) significand exponent)
  else none

/-- Two numbers compare equal: finite ones as fractions, so that the two zeros are equal, and a NaN
only if it is the same one. -/
def equals : Binary64 → Binary64 → Bool
  | nan m, nan n => m == n
  | infinite a, infinite b => a == b
  | finite a s e, finite b t f =>
    signedNumerator a s e * denominator f == signedNumerator b t f * denominator e
  | _, _ => false

end Binary64
end SyncedFile
