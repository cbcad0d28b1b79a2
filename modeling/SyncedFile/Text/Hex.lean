import SyncedFile.Text.Basic

/-!
# Hexadecimal text

Octets as pairs of hexadecimal digits. Writing uses lower-case digits; reading takes both cases and
allows white space before, between and after the pairs.

Main statement: reading gives back what was written (`decode_encode`).
-/

namespace SyncedFile.Text.Hex

def digit (n : Nat) : Char :=
  Nat.digitChar n

def value? (c : Char) : Option Nat :=
  if '0' ≤ c ∧ c ≤ '9' then some (c.toNat - '0'.toNat)
  else if 'a' ≤ c ∧ c ≤ 'f' then some (c.toNat - 'a'.toNat + 10)
  else if 'A' ≤ c ∧ c ≤ 'F' then some (c.toNat - 'A'.toNat + 10)
  else none

def octet (b : UInt8) : Text :=
  [digit (b.toNat / 16), digit (b.toNat % 16)]

def encode (bytes : List UInt8) : Text :=
  bytes.flatMap octet

/-- The numeral of a number in base sixteen, with zeros before it up to `width` digits. -/
def ofNat (width n : Nat) : Text :=
  padLeft '0' width (Nat.toDigits 16 n)

/-- ASCII white space, which may stand between pairs. -/
def isSpace (c : Char) : Bool :=
  c ∈ [' ', '\t', '\n', '\r', Char.ofNat 0x0B, Char.ofNat 0x0C]

/-- The octets that a text of digit pairs stands for; refuses a digit that stands alone. -/
def decode : Text → Option (List UInt8)
  | [] => some []
  | [c] => if isSpace c then some [] else none
  | c :: d :: rest =>
    if isSpace c then decode (d :: rest)
    else
      match value? c, value? d with
      | some hi, some lo => (decode rest).map (UInt8.ofNat (16 * hi + lo) :: ·)
      | _, _ => none

theorem value?_digit : ∀ n < 16, value? (digit n) = some n := by decide

theorem not_isSpace_digit : ∀ n < 16, isSpace (digit n) = false := by decide

theorem decode_encode (bytes : List UInt8) : decode (encode bytes) = some bytes := by
  induction bytes with
  | nil => rfl
  | cons b rest ih =>
    have hb : b.toNat < 256 := b.toNat_lt
    have hi : b.toNat / 16 < 16 := by omega
    have lo : b.toNat % 16 < 16 := by omega
    have whole : 16 * (b.toNat / 16) + b.toNat % 16 = b.toNat := by omega
    show decode (digit (b.toNat / 16) :: digit (b.toNat % 16) :: encode rest) = _
    simp [decode, not_isSpace_digit _ hi, value?_digit _ hi, value?_digit _ lo, ih, whole]

end SyncedFile.Text.Hex
