import SyncedFile.Decimal.Notation

/-!
# Digits of numbers

A numeral has a zero at its start only for the number zero, and the shortest decimal of a magnitude
has no digits other than zero only where the magnitude is zero, which is then written without an
exponent. So no numeral has a zero before its other digits.

Main statement: `Decimal.isCanonical_shortest`.
-/

namespace SyncedFile

/-! ## Numerals -/

namespace Text

variable {n : Nat}

theorem digitChar_ne_zero : ∀ n < 10, 0 < n → Nat.digitChar n ≠ '0' := by
  decide

theorem head?_ofNat (positive : 0 < n) : (ofNat n).head? ≠ some '0' := by
  induction n using Nat.strongRecOn with
  | _ n ih =>
    by_cases small : n < 10
    · rw [ofNat, Nat.toDigits_of_lt_base small]
      simpa using digitChar_ne_zero n small positive
    · have shorter := ih (n / 10) (by omega) (by omega)
      rw [ofNat, Nat.toDigits_of_base_le (by decide) (Nat.not_lt.1 small), List.head?_append]
      rw [ofNat] at shorter
      cases first : (Nat.toDigits 10 (n / 10)).head? with
      | none => exact absurd (List.head?_eq_none_iff.1 first) Nat.toDigits_ne_nil
      | some c => simpa [first] using shorter

end Text

/-! ## Shortest decimals -/

namespace Decimal

variable {interval : Interval} {significand : Nat} {exponent : Int} {n : Nat}

/-- A decimal whose only digit is zero has no exponent. -/
def IsCanonical (d : Decimal) : Prop :=
  d.digits = 0 → d.exponent = 0

theorem IsCanonical.of_pos {d : Decimal} (positive : 0 < d.digits) : d.IsCanonical := by
  intro zero
  omega

theorem lower_ofMagnitude (positive : 0 < significand) (exponent : Int) :
    0 < (Interval.ofMagnitude significand exponent).lower := by
  have unit : 0 < 1 <<< exponent.toNat := by
    rw [Nat.shiftLeft_eq, Nat.one_mul]
    exact Nat.two_pow_pos _
  have numerator : 1 <<< exponent.toNat ≤ Binary64.numerator significand exponent := by
    rw [Binary64.numerator, Nat.shiftLeft_eq, Nat.shiftLeft_eq]
    exact Nat.mul_le_mul_right _ positive
  simp only [Interval.ofMagnitude]
  split <;> omega

theorem admits_zero (above : 0 < interval.lower) : interval.admits 0 = false := by
  simp [Interval.admits, Nat.ne_of_gt above]

theorem lower_scale (above : 0 < interval.lower) (exponent : Int) :
    0 < (interval.scale exponent).lower :=
  Nat.mul_pos above (Nat.pow_pos (by decide))

/-- What lies on a grid next to a value above zero, and reads back as it, is not zero. -/
theorem gridPoint?_pos (above : 0 < interval.lower)
    (found : interval.gridPoint? exponent = some n) : 0 < n := by
  have zero := admits_zero (lower_scale above exponent)
  simp only [Interval.gridPoint?] at found
  generalize (interval.scale exponent).value / (interval.scale exponent).denominator = below at found
  have positive (admitted : (interval.scale exponent).admits
      (below * (interval.scale exponent).denominator) = true) : 0 < below := by
    apply Nat.pos_of_ne_zero
    rintro rfl
    rw [Nat.zero_mul, zero] at admitted
    cases admitted
  split at found
  case h_1 lower _ =>
    have := positive lower
    split at found <;> cases found <;> omega
  case h_2 lower _ =>
    cases found
    exact positive lower
  case h_3 =>
    cases found
    exact Nat.succ_pos below
  case h_4 => cases found

theorem trim_pos {d : Decimal} (fuel : Nat) (positive : 0 < d.digits) :
    0 < (trim fuel d).digits := by
  induction fuel generalizing d with
  | zero => exact positive
  | succ fuel ih =>
    rw [trim]
    split
    case isTrue zeros => exact ih (show 0 < d.digits / 10 by omega)
    case isFalse => exact positive

theorem trim_zero (fuel : Nat) : trim fuel ⟨0, 0⟩ = ⟨0, 0⟩ := by
  cases fuel <;> rfl

/-- The shortest decimal of a magnitude has the digit zero alone only as zero itself. -/
theorem isCanonical_shortest (significand : Nat) (exponent : Int) :
    (shortest significand exponent).IsCanonical := by
  rw [shortest]
  split
  case isTrue => exact fun _ => rfl
  case isFalse notZero =>
    have above := lower_ofMagnitude (Nat.pos_of_ne_zero notZero) exponent
    dsimp only
    cases found : (List.range 18).findSome? _ with
    | none => exact fun _ => congrArg Decimal.exponent (trim_zero 20)
    | some d =>
      obtain ⟨more, -, here⟩ := List.exists_of_findSome?_eq_some found
      obtain ⟨digits, onGrid, rfl⟩ := Option.map_eq_some_iff.1 here
      exact .of_pos (trim_pos 20 (gridPoint?_pos above onGrid))

end Decimal
end SyncedFile
