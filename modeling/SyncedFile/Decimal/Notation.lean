import SyncedFile.Decimal.Shortest
import SyncedFile.Text.Basic

/-!
# Floating-point numbers as text

The default text has the shortest digits that read back, in positional notation from `0.0001` up to
below `10 ^ 16` and with an exponent otherwise. The other forms have a fixed number of digits after
the point, or of digits in all.
-/

namespace SyncedFile

/-- How a number is laid out as text. -/
structure NumberStyle where
  /-- The first digit's exponents that are written positionally, from one through the other. -/
  positional : Int × Int
  /-- A whole number is given a point and a zero. -/
  keepsPoint : Bool
  /-- What stands for NaN. -/
  nan : Text
  /-- What stands for infinity. -/
  infinity : Text

namespace Decimal

def digitText (d : Decimal) : Text :=
  Text.ofNat d.digits

def leading (d : Decimal) : Int :=
  (d.digitText.length : Int) + d.exponent - 1

def exponentText (mark : Char) (e : Int) : Text :=
  mark :: (if e < 0 then '-' else '+') :: Text.padLeft '0' 2 (Text.ofNat e.natAbs)

def positional (keepsPoint : Bool) (d : Decimal) : Text :=
  let digits := d.digitText
  let place := d.leading + 1
  if 0 ≤ d.exponent then
    digits ++ List.replicate d.exponent.toNat '0' ++ (if keepsPoint then (".0" : Text) else [])
  else if 0 < place then digits.take place.toNat ++ '.' :: digits.drop place.toNat
  else "0." ++ List.replicate (-place).toNat '0' ++ digits

def scientific (mark : Char) (d : Decimal) : Text :=
  let digits := d.digitText
  let body := if digits.length ≤ 1 then digits else digits.take 1 ++ '.' :: digits.drop 1
  body ++ exponentText mark d.leading

end Decimal

namespace NumberStyle

def decimal (style : NumberStyle) (d : Decimal) : Text :=
  if style.positional.1 ≤ d.leading ∧ d.leading ≤ style.positional.2 then
    d.positional style.keepsPoint
  else d.scientific 'e'

def render (style : NumberStyle) : Binary64 → Text
  | .nan _ => style.nan
  | .infinite negative => (if negative then ['-'] else []) ++ style.infinity
  | .finite negative significand exponent =>
    (if negative then ['-'] else []) ++ style.decimal (Decimal.shortest significand exponent)

def plain : NumberStyle where
  positional := (-4, 15)
  keepsPoint := true
  nan := "nan"
  infinity := "inf"

/-- Numbers in log lines: the same digits, with the words `NaN` and `Infinity`. -/
def logged : NumberStyle :=
  { plain with nan := "NaN", infinity := "Infinity" }

end NumberStyle
end SyncedFile
