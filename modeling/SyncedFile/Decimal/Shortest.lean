import SyncedFile.Decimal.Binary64

/-!
# The shortest decimal that reads back

A floating-point magnitude stands for every real number that rounds to it. Of the decimals in that
interval the shortest one is chosen, and of several with as few digits the one nearest the
magnitude; an exact tie goes to the even digit. All arithmetic is on whole numbers.
-/

namespace SyncedFile

/-- A decimal `digits · 10 ^ exponent`. -/
structure Decimal where
  digits : Nat
  exponent : Int
  deriving DecidableEq

namespace Decimal

/-- A magnitude with the interval of reals that round to it, over one common denominator. -/
structure Interval where
  lower : Nat
  value : Nat
  upper : Nat
  denominator : Nat
  /-- The ends belong to the interval. -/
  closed : Bool

namespace Interval

/-- The interval of `significand · 2 ^ exponent`. Below a power of two the neighbours stand half as
far apart, so the lower end is nearer; the ends round to an even significand. -/
def ofMagnitude (significand : Nat) (exponent : Int) : Interval :=
  let unit := 1 <<< exponent.toNat
  let value := 4 * Binary64.numerator significand exponent
  let gap := if significand = Binary64.hiddenBit ∧ -1074 < exponent then unit else 2 * unit
  { lower := value - gap
    value := value
    upper := value + 2 * unit
    denominator := 4 * Binary64.denominator exponent
    closed := significand % 2 == 0 }

def admits (interval : Interval) (n : Nat) : Bool :=
  if interval.closed then interval.lower ≤ n && n ≤ interval.upper
  else interval.lower < n && n < interval.upper

/-- The same interval with all its numbers measured in steps of `10 ^ exponent`. -/
def scale (interval : Interval) (exponent : Int) : Interval :=
  let factor := Nat.pow 10 (-exponent).toNat
  { interval with
    lower := interval.lower * factor
    value := interval.value * factor
    upper := interval.upper * factor
    denominator := interval.denominator * Nat.pow 10 exponent.toNat }

/-- The point of the grid of multiples of `10 ^ exponent` that lies in the interval nearest its
value, if one of the value's two neighbours on the grid lies in it. -/
def gridPoint? (interval : Interval) (exponent : Int) : Option Nat :=
  let scaled := interval.scale exponent
  let below := scaled.value / scaled.denominator
  let above := below + 1
  let down := scaled.value - below * scaled.denominator
  let up := above * scaled.denominator - scaled.value
  match scaled.admits (below * scaled.denominator), scaled.admits (above * scaled.denominator) with
  -- Both neighbours read back: the nearer one, and of two as near the even one.
  | true, true =>
    if down < up ∨ (down = up ∧ below % 2 = 0) then some below else some above
  | true, false => some below
  | false, true => some above
  | false, false => none

end Interval

/-- The exponent of the first digit of the fraction `n / d`: the floor of its decimal logarithm. -/
def magnitude (n d : Nat) : Int :=
  if d ≤ n then (Nat.toDigits 10 (n / d)).length - 1
  else -((List.range 400).find? fun places => d ≤ n * Nat.pow 10 places).getD 400

/-- The decimal without zeros at its end; at most `fuel` of them are dropped. -/
def trim (fuel : Nat) (d : Decimal) : Decimal :=
  match fuel with
  | 0 => d
  | fuel + 1 =>
    if d.digits % 10 = 0 ∧ d.digits ≠ 0 then trim fuel ⟨d.digits / 10, d.exponent + 1⟩ else d

/-- The shortest decimal that reads back as `significand · 2 ^ exponent`; the grids are tried from
the coarsest on, and seventeen digits always suffice. -/
def shortest (significand : Nat) (exponent : Int) : Decimal :=
  if significand = 0 then ⟨0, 0⟩
  else
    let interval := Interval.ofMagnitude significand exponent
    let first := magnitude interval.value interval.denominator
    let found := (List.range 18).findSome? fun (more : Nat) =>
      (interval.gridPoint? (first - more)).map fun digits => (⟨digits, first - more⟩ : Decimal)
    trim 20 (found.getD ⟨0, 0⟩)

/-- The quotient `n / d` rounded to a whole number; a half goes to the even neighbour. -/
def roundQuotient (n d : Nat) : Nat :=
  let q := n / d
  let twice := 2 * (n % d)
  if twice < d ∨ (twice = d ∧ q % 2 = 0) then q else q + 1

def roundTo (n d : Nat) (exponent : Int) : Decimal :=
  ⟨roundQuotient (n * Nat.pow 10 (-exponent).toNat) (d * Nat.pow 10 exponent.toNat), exponent⟩

end Decimal
end SyncedFile
