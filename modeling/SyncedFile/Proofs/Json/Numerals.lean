import SyncedFile.Proofs.Decimal.Digits
import SyncedFile.Proofs.Json.Reader

/-!
# Numbers in JSON

What is written for a whole number or a floating-point one is a number by the rules of JSON, or one
of the words for what has no digits.

Main statements: `Reader.isNumeral_ofInt`, `Reader.isNumeral_render`, `Reader.scalar?_of_isNumeral`.
-/

namespace SyncedFile.Json.Reader

variable {p : Char → Bool} {c : Char} {t whole digits rest tail word : Text}

/-! ## Spans -/

theorem span_append (all : ∀ c ∈ t, p c = true) (stops : ∀ c ∈ rest.head?, p c = false) :
    (t ++ rest).takeWhile p = t ∧ (t ++ rest).dropWhile p = rest := by
  have stopped : rest.takeWhile p = [] ∧ rest.dropWhile p = rest := by
    cases rest with
    | nil => exact ⟨rfl, rfl⟩
    | cons c rest => simp [stops c rfl]
  rw [List.takeWhile_append_of_pos all, List.dropWhile_append_of_pos all, stopped.1, stopped.2,
    List.append_nil]
  exact ⟨rfl, rfl⟩

/-! ## The rules for numbers -/

theorem isExponent_head (accepted : isExponent t = true) : ∀ c ∈ t.head?, c.isDigit = false := by
  cases t with
  | nil => simp
  | cons mark t =>
    simp only [isExponent, Bool.and_eq_true, Bool.or_eq_true, decide_eq_true_eq] at accepted
    rcases accepted.1 with rfl | rfl <;> simp

theorem isFraction_head (accepted : isFraction t = true) : ∀ c ∈ t.head?, c.isDigit = false := by
  rw [isFraction.eq_def] at accepted
  split at accepted
  case h_1 => simp
  case h_2 => exact isExponent_head accepted

theorem isExponent_of_digits {sign : Char} (signed : sign = '+' ∨ sign = '-') (nonempty : digits ≠ [])
    (all : ∀ c ∈ digits, c.isDigit = true) : isExponent ('e' :: sign :: digits) = true := by
  rcases signed with rfl | rfl <;> simpa [isExponent, nonempty] using all

theorem isFraction_point (nonempty : digits ≠ []) (all : ∀ c ∈ digits, c.isDigit = true)
    (accepted : isExponent tail = true) : isFraction ('.' :: (digits ++ tail)) = true := by
  have span := span_append all (isExponent_head accepted)
  simp [isFraction, span.1, span.2, nonempty, accepted]

theorem isMagnitude_append (nonempty : whole ≠ []) (all : ∀ c ∈ whole, c.isDigit = true)
    (start : whole = ['0'] ∨ whole.head? ≠ some '0') (accepted : isFraction tail = true) :
    isMagnitude (whole ++ tail) = true := by
  have span := span_append all (isFraction_head accepted)
  simpa [isMagnitude, span.1, span.2, nonempty, accepted] using start

theorem isNumeral_of_isMagnitude (accepted : isMagnitude t = true) : isNumeral t = true := by
  rw [isNumeral.eq_def]
  split
  case h_1 t => simp [isMagnitude] at accepted
  case h_2 => exact accepted

/-! ## Characters of numbers -/

theorem isWordChar_of_isDigit (digit : c.isDigit = true) : isWordChar c = true := by
  simp [isWordChar, Char.isAlphanum, digit]

theorem isWordChar_of_isExponent (accepted : isExponent t = true) : ∀ c ∈ t, isWordChar c = true := by
  cases t with
  | nil => simp
  | cons mark t =>
    simp only [isExponent, Bool.and_eq_true, Bool.or_eq_true, decide_eq_true_eq] at accepted
    obtain ⟨marked, accepted⟩ := accepted
    have first : isWordChar mark = true := by
      rcases marked with rfl | rfl <;> decide
    have others : ∀ c ∈ t, isWordChar c = true := by
      split at accepted <;>
        simp only [Bool.and_eq_true, List.all_eq_true, List.forall_mem_cons] at accepted ⊢
      · exact ⟨by decide, fun c mem => isWordChar_of_isDigit (accepted.2 c mem)⟩
      · exact ⟨by decide, fun c mem => isWordChar_of_isDigit (accepted.2 c mem)⟩
      · exact fun c mem => isWordChar_of_isDigit (accepted.2 c mem)
    exact List.forall_mem_cons.2 ⟨first, others⟩

theorem isWordChar_of_span (others : ∀ c ∈ t.dropWhile Char.isDigit, isWordChar c = true) :
    ∀ c ∈ t, isWordChar c = true := by
  rw [← List.takeWhile_append_dropWhile (p := Char.isDigit) (l := t)]
  refine List.forall_mem_append.2 ⟨fun c mem => ?_, others⟩
  exact isWordChar_of_isDigit (List.all_eq_true.1 List.all_takeWhile c mem)

theorem isWordChar_of_isFraction (accepted : isFraction t = true) : ∀ c ∈ t, isWordChar c = true := by
  rw [isFraction.eq_def] at accepted
  split at accepted
  case h_1 t =>
    simp only [Bool.and_eq_true] at accepted
    exact List.forall_mem_cons.2
      ⟨by decide, isWordChar_of_span (isWordChar_of_isExponent accepted.2)⟩
  case h_2 => exact isWordChar_of_isExponent accepted

theorem isWordChar_of_isMagnitude (accepted : isMagnitude t = true) :
    ∀ c ∈ t, isWordChar c = true := by
  simp only [isMagnitude, Bool.and_eq_true] at accepted
  exact isWordChar_of_span (isWordChar_of_isFraction accepted.2)

theorem isWordChar_of_isNumeral (accepted : isNumeral t = true) : ∀ c ∈ t, isWordChar c = true := by
  rw [isNumeral.eq_def] at accepted
  split at accepted
  case h_1 => exact List.forall_mem_cons.2 ⟨by decide, isWordChar_of_isMagnitude accepted⟩
  case h_2 => exact isWordChar_of_isMagnitude accepted

/-! ## Numbers as they are written -/

theorem isMagnitude_ofNat (n : Nat) : isMagnitude (Text.ofNat n) = true := by
  have start : Text.ofNat n = ['0'] ∨ (Text.ofNat n).head? ≠ some '0' := by
    cases n with
    | zero => exact .inl rfl
    | succ n => exact .inr (Text.head?_ofNat n.succ_pos)
  have digits : ∀ c ∈ Text.ofNat n, c.isDigit = true :=
    fun c mem => Nat.isDigit_of_mem_toDigits (by decide) (by decide) mem
  have noFraction : isFraction [] = true := rfl
  have whole := isMagnitude_append Nat.toDigits_ne_nil digits start noFraction
  rwa [List.append_nil] at whole

theorem isNumeral_ofInt : ∀ i : Int, isNumeral (Text.ofInt i) = true
  | .ofNat n => isNumeral_of_isMagnitude (isMagnitude_ofNat n)
  | .negSucc n => isMagnitude_ofNat (n + 1)

theorem isExponent_exponentText (e : Int) : isExponent (Decimal.exponentText 'e' e) = true := by
  have digits : ∀ c ∈ Text.padLeft '0' 2 (Text.ofNat e.natAbs), c.isDigit = true := by
    refine List.forall_mem_append.2 ⟨fun c mem => ?_, fun c mem => ?_⟩
    · rw [List.eq_of_mem_replicate mem]
      rfl
    · exact Nat.isDigit_of_mem_toDigits (by decide) (by decide) mem
  have nonempty : Text.padLeft '0' 2 (Text.ofNat e.natAbs) ≠ [] :=
    List.append_ne_nil_of_right_ne_nil _ Nat.toDigits_ne_nil
  refine isExponent_of_digits ?_ nonempty digits
  split <;> simp

section

variable {d : Decimal}

theorem all_isDigit_digitText (d : Decimal) : ∀ c ∈ d.digitText, c.isDigit = true :=
  fun _ mem => Nat.isDigit_of_mem_toDigits (by decide) (by decide) mem

theorem digitText_ne_nil (d : Decimal) : d.digitText ≠ [] :=
  Nat.toDigits_ne_nil

theorem digitText_start (d : Decimal) :
    d.digits = 0 ∧ d.digitText = ['0'] ∨ 0 < d.digits ∧ d.digitText.head? ≠ some '0' := by
  rcases Nat.eq_zero_or_pos d.digits with zero | positive
  · exact .inl ⟨zero, by rw [Decimal.digitText, zero]; rfl⟩
  · exact .inr ⟨positive, Text.head?_ofNat positive⟩

theorem isMagnitude_positional (canonical : d.IsCanonical) :
    isMagnitude (d.positional true) = true := by
  have all := all_isDigit_digitText d
  have nonempty := digitText_ne_nil d
  have zeros (n : Nat) : ∀ c ∈ List.replicate n '0', c.isDigit = true := by
    intro c mem
    rw [List.eq_of_mem_replicate mem]
    rfl
  simp only [Decimal.positional]
  split
  case isTrue whole =>
    refine isMagnitude_append (List.append_ne_nil_of_left_ne_nil nonempty _)
      (List.forall_mem_append.2 ⟨all, zeros _⟩) ?_ (by decide)
    rcases digitText_start d with ⟨zero, digits⟩ | ⟨-, start⟩
    · left
      simp [digits, canonical zero]
    · right
      rwa [List.head?_append, Option.or_of_isSome (List.isSome_head?.2 nonempty)]
  case isFalse broken =>
    have positive : d.digitText.head? ≠ some '0' := by
      rcases digitText_start d with ⟨zero, -⟩ | ⟨-, start⟩
      · exact absurd (canonical zero) (by omega)
      · exact start
    split
    case isTrue inside =>
      -- The point stands among the digits: there are some on both sides of it.
      have place : 0 < (d.leading + 1).toNat ∧ (d.leading + 1).toNat < d.digitText.length := by
        rw [Decimal.leading] at inside ⊢
        omega
      have taken : d.digitText.take (d.leading + 1).toNat ≠ [] := by
        simp [List.take_eq_nil_iff, nonempty]
        omega
      have left : d.digitText.drop (d.leading + 1).toNat ≠ [] := by
        rw [Ne, List.drop_eq_nil_iff]
        omega
      refine isMagnitude_append taken (fun c mem => all c (List.mem_of_mem_take mem)) (.inr ?_) ?_
      · rwa [List.head?_take, if_neg (by omega)]
      · simpa using isFraction_point left (fun c mem => all c (List.mem_of_mem_drop mem))
          (show isExponent [] = true from rfl)
    case isFalse =>
      have fraction := isFraction_point (List.append_ne_nil_of_right_ne_nil
        (List.replicate (-(d.leading + 1)).toNat '0') nonempty)
        (List.forall_mem_append.2 ⟨zeros _, all⟩) (show isExponent [] = true from rfl)
      have zero : ∀ c ∈ ['0'], c.isDigit = true := by decide
      simpa using isMagnitude_append (List.cons_ne_nil _ _) zero (.inl rfl) fraction

theorem isMagnitude_scientific (d : Decimal) : isMagnitude (d.scientific 'e') = true := by
  have all := all_isDigit_digitText d
  have nonempty := digitText_ne_nil d
  have exponent := isExponent_exponentText d.leading
  simp only [Decimal.scientific]
  split
  case isTrue single =>
    refine isMagnitude_append nonempty all ?_ ?_
    · rcases digitText_start d with ⟨-, digits⟩ | ⟨-, start⟩
      · exact .inl digits
      · exact .inr start
    · exact exponent
  case isFalse several =>
    have start : d.digitText.head? ≠ some '0' := by
      rcases digitText_start d with ⟨-, digits⟩ | ⟨-, start⟩
      · rw [digits] at several
        exact absurd (Nat.le_refl 1) several
      · exact start
    have left : d.digitText.drop 1 ≠ [] := by
      rw [Ne, List.drop_eq_nil_iff]
      omega
    rw [List.append_assoc, List.cons_append]
    refine isMagnitude_append ?_ (fun c mem => all c (List.mem_of_mem_take mem)) (.inr ?_) ?_
    · simp [List.take_eq_nil_iff, nonempty]
    · rwa [List.head?_take, if_neg (by omega)]
    · exact isFraction_point left (fun c mem => all c (List.mem_of_mem_drop mem)) exponent

end

/-- A floating-point number is written as a number of JSON, or in one of the words for numbers. -/
theorem isNumeral_render (x : Binary64) :
    isNumeral (NumberStyle.logged.render x) = true ∨ NumberStyle.logged.render x ∈ numberWords := by
  rcases x with mark | ⟨_ | _⟩ | ⟨negative, significand, exponent⟩
  · exact .inr (by simp [numberWords, NumberStyle.render, NumberStyle.logged])
  · exact .inr (by decide)
  · exact .inr (by decide)
  · have magnitude :
        isMagnitude (NumberStyle.logged.decimal (Decimal.shortest significand exponent)) = true := by
      rw [NumberStyle.decimal]
      split
      · exact isMagnitude_positional (Decimal.isCanonical_shortest significand exponent)
      · exact isMagnitude_scientific _
    left
    cases negative with
    | false => exact isNumeral_of_isMagnitude magnitude
    | true => exact magnitude

/-! ## Words -/

theorem scalar?_of_isNumeral (number : isNumeral word = true ∨ word ∈ numberWords) :
    scalar? word = some (.number word) := by
  have other {named : Text} (not : isNumeral named = false ∧ named ∉ numberWords) : word ≠ named := by
    rintro rfl
    simp [not] at number
  rw [scalar?, if_neg (other (by decide)), if_neg (other (by decide)), if_neg (other (by decide)),
    if_pos number]

theorem isWordChar_of_number (number : isNumeral word = true ∨ word ∈ numberWords) :
    ∀ c ∈ word, isWordChar c = true := by
  rcases number with number | named
  · exact isWordChar_of_isNumeral number
  · revert word
    decide

end SyncedFile.Json.Reader
