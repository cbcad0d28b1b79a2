import SyncedFile.Text.LetterCase

/-!
# Lower case and ASCII

Lower-casing looks at neighbours and knows all of Unicode, but a lower-case form that is ASCII
throughout has come about character by character. The only characters beyond ASCII with an ASCII
character in their lower-case form are the Kelvin sign and the dotted capital I.

* `lower_eq_map_of_ascii` — an ASCII lower-case form, character by character;
* `lower_lower_of_ascii` — lower-casing it again changes nothing;
* `mem_lower_of_ascii` — where an ASCII character of a lower-case form has come from.
-/

namespace SyncedFile.Text

def IsAscii (t : Text) : Prop := ∀ c ∈ t, c.toNat < 0x80

/-! ## Single characters -/

theorem of_ascii {P : Char → Prop} (numbered : ∀ n < 0x80, P (Char.ofNat n)) {c : Char}
    (ascii : c.toNat < 0x80) : P c := by
  rw [← Char.ofNat_toNat c]
  exact numbered _ ascii

theorem isAlphanum_iff (c : Char) :
    c.isAlphanum = true ↔ ('A' ≤ c ∧ c ≤ 'Z') ∨ ('a' ≤ c ∧ c ≤ 'z') ∨ ('0' ≤ c ∧ c ≤ '9') := by
  have ranges : c.isAlphanum = (decide ('A' ≤ c ∧ c ≤ 'Z') ||
      decide ('a' ≤ c) && decide (c ≤ 'z') || decide ('0' ≤ c) && decide (c ≤ '9')) := rfl
  simp only [ranges, Bool.or_eq_true, Bool.and_eq_true, decide_eq_true_eq, or_assoc]

theorem toLower_of_not_ascii {c : Char} (beyond : ¬ c.toNat < 0x80) : c.toLower = c := by
  refine dif_neg fun range => beyond ?_
  have upper : c.val.toNat ≤ 'Z'.val.toNat := UInt32.le_iff_toNat_le.1 range.2
  exact Nat.lt_of_le_of_lt upper (by decide)

theorem apply_toLower {p : Char → Bool}
    (kept : ∀ n < 0x80, p (Char.ofNat n).toLower = p (Char.ofNat n)) (c : Char) :
    p c.toLower = p c := by
  by_cases ascii : c.toNat < 0x80
  · exact of_ascii (P := fun c => p c.toLower = p c) kept ascii
  · rw [toLower_of_not_ascii ascii]

theorem toLower_toLower (c : Char) : c.toLower.toLower = c.toLower := by
  by_cases ascii : c.toNat < 0x80
  · exact of_ascii (P := fun c => c.toLower.toLower = c.toLower) (by decide) ascii
  · rw [toLower_of_not_ascii ascii, toLower_of_not_ascii ascii]

theorem all_map_toLower {p : Char → Bool}
    (kept : ∀ n < 0x80, p (Char.ofNat n).toLower = p (Char.ofNat n)) (t : Text) :
    (t.map Char.toLower).all p = t.all p := by
  rw [List.all_map]
  exact congrArg t.all (funext (apply_toLower kept))

/-- The lower-case form of a character whose lower-case form is ASCII. -/
def lowerToAscii (c : Char) : Char :=
  if c.toNat = 0x212A then 'k' else c.toLower

/-- A property that the Kelvin sign shares with `k` is kept, too. -/
theorem apply_lowerToAscii {p : Char → Bool} (kelvin : p 'k' = p (Char.ofNat 0x212A))
    (kept : ∀ n < 0x80, p (Char.ofNat n).toLower = p (Char.ofNat n)) (c : Char) :
    p (lowerToAscii c) = p c := by
  rw [lowerToAscii]
  split
  · next sign =>
    rw [kelvin, ← sign, Char.ofNat_toNat]
  · exact apply_toLower kept c

theorem toLower_lowerToAscii (c : Char) : (lowerToAscii c).toLower = lowerToAscii c := by
  rw [lowerToAscii]
  split
  · decide
  · exact toLower_toLower c

/-- A capital beyond ASCII other than the Kelvin sign has a lower-case form beyond ASCII. -/
theorem capitals_beyond_ascii : ∀ row ∈ capitals,
    row.2.1 < 0x80 ∨ row = (0x212A, 0x212A, 1, -8383) ∨
      0x80 ≤ row.1 + row.2.2.2 ∧ (row.2.1 + row.2.2.2 < 0xD800 ∨
        0xDFFF < row.1 + row.2.2.2 ∧ row.2.1 + row.2.2.2 < 0x110000) := by
  decide +kernel

theorem toNat_ofNat_of_valid {n : Nat} (valid : n < 0xD800 ∨ 0xDFFF < n ∧ n < 0x110000) :
    (Char.ofNat n).toNat = n := by
  have isValid : n.isValidChar := valid
  rw [Char.ofNat, dif_pos isValid]
  rfl

theorem mem_lowerChar_of_ascii {c d : Char} (mem : d ∈ lowerChar c) (ascii : d.toNat < 0x80) :
    c.toNat < 0x80 ∧ d = c.toLower ∨ c.toNat = 0x212A ∧ d = 'k' ∨ c.toNat = 0x130 ∧ d = 'i' := by
  rw [lowerChar] at mem
  split at mem
  · next small => exact .inl ⟨small, List.mem_singleton.1 mem⟩
  · next beyond =>
    split at mem
    · next dotted =>
      rcases List.mem_cons.1 mem with rfl | mem
      · exact .inr (.inr ⟨dotted, rfl⟩)
      · rw [List.mem_singleton.1 mem] at ascii
        exact absurd ascii (by decide)
    · split at mem
      · next row found =>
        have inTable := List.mem_of_find?_eq_some found
        have covers := List.find?_some found
        simp only [CaseRow.covers, Bool.and_eq_true, decide_eq_true_eq] at covers
        obtain ⟨⟨low, high⟩, -⟩ := covers
        rcases capitals_beyond_ascii row inTable with small | kelvin | ⟨large, valid⟩
        · omega
        · rw [kelvin] at low high mem
          have sign : c.toNat = 0x212A := Nat.le_antisymm high low
          rw [sign] at mem
          exact .inr (.inl ⟨sign, List.mem_singleton.1 mem⟩)
        · -- The row shifts the character to a number beyond ASCII, so `d` cannot be ASCII.
          have form : d.toNat = (c.toNat + row.2.2.2).toNat := by
            rw [List.mem_singleton.1 mem]
            exact toNat_ofNat_of_valid (by omega)
          omega
      · rw [List.mem_singleton.1 mem] at ascii
        exact absurd ascii beyond

theorem lowerChar_eq_of_ascii {c : Char} (ascii : IsAscii (lowerChar c)) :
    lowerChar c = [lowerToAscii c] := by
  have form : ∀ d ∈ lowerChar c, d = lowerToAscii c ∨ c.toNat = 0x130 := by
    intro d mem
    rcases mem_lowerChar_of_ascii mem (ascii d mem) with ⟨small, rfl⟩ | ⟨sign, rfl⟩ | ⟨dotted, -⟩
    · exact .inl (if_neg (by omega)).symm
    · exact .inl (if_pos sign).symm
    · exact .inr dotted
  by_cases dotted : c.toNat = 0x130
  · -- The dotted capital I has a combining dot in its lower-case form.
    have second : Char.ofNat 0x307 ∈ lowerChar c := by
      simp [lowerChar, dotted]
    exact absurd (ascii _ second) (by decide)
  · have single : ∃ d, lowerChar c = [d] := by
      rw [lowerChar, if_neg dotted]
      split
      · exact ⟨_, rfl⟩
      · split <;> exact ⟨_, rfl⟩
    obtain ⟨d, eq⟩ := single
    rw [eq] at form ⊢
    rw [(form d List.mem_cons_self).resolve_right dotted]

theorem lowerChar_ne_nil (c : Char) : lowerChar c ≠ [] := by
  rw [lowerChar]
  split
  · exact List.cons_ne_nil _ _
  · split
    · exact List.cons_ne_nil _ _
    · split <;> exact List.cons_ne_nil _ _

/-! ## Texts -/

theorem lower_ne_nil {t : Text} (nonempty : t ≠ []) : lower t ≠ [] := by
  cases t with
  | nil => exact absurd rfl nonempty
  | cons c rest =>
    rw [lower, lowerAfter]
    split
    · exact List.cons_ne_nil _ _
    · exact List.append_ne_nil_of_left_ne_nil (lowerChar_ne_nil c) _

theorem lowerAfter_eq_map_of_ascii {before t : Text} (ascii : IsAscii (lowerAfter before t)) :
    lowerAfter before t = t.map lowerToAscii := by
  induction t generalizing before with
  | nil => rfl
  | cons c rest ih =>
    rw [lowerAfter] at ascii ⊢
    have asciiRest := ih fun d mem => ascii d (List.mem_append_right _ mem)
    have asciiFirst := fun d mem => ascii d (List.mem_append_left _ mem)
    split at asciiFirst
    · -- Both lower-case forms of the sigma are beyond ASCII.
      split at asciiFirst <;> exact absurd (asciiFirst _ List.mem_cons_self) (by decide)
    · next notSigma =>
      rw [if_neg notSigma, asciiRest, lowerChar_eq_of_ascii asciiFirst]
      rfl

theorem lower_eq_map_of_ascii {t : Text} (ascii : IsAscii (lower t)) :
    lower t = t.map lowerToAscii :=
  lowerAfter_eq_map_of_ascii ascii

theorem lowerAfter_of_ascii {before t : Text} (ascii : IsAscii t) :
    lowerAfter before t = t.map Char.toLower := by
  induction t generalizing before with
  | nil => rfl
  | cons c rest ih =>
    have small : c.toNat < 0x80 := ascii c List.mem_cons_self
    rw [lowerAfter, if_neg (by omega), lowerChar, if_pos small,
      ih fun d mem => ascii d (List.mem_cons_of_mem _ mem)]
    rfl

theorem lower_of_ascii {t : Text} (ascii : IsAscii t) : lower t = t.map Char.toLower :=
  lowerAfter_of_ascii ascii

theorem lower_lower_of_ascii {t : Text} (ascii : IsAscii (lower t)) : lower (lower t) = lower t := by
  rw [lower_of_ascii ascii, lower_eq_map_of_ascii ascii, List.map_map]
  exact List.map_congr_left fun c _ => toLower_lowerToAscii c

/-- An ASCII character of a lower-case form has come from an ASCII character, but for the two
letters that also come from beyond. -/
theorem mem_lowerAfter_of_ascii {before t : Text} {d : Char} (mem : d ∈ lowerAfter before t)
    (ascii : d.toNat < 0x80) : (∃ c ∈ t, d = c.toLower) ∨ d = 'k' ∨ d = 'i' := by
  induction t generalizing before with
  | nil => exact absurd mem List.not_mem_nil
  | cons c rest ih =>
    rw [lowerAfter, List.mem_append] at mem
    rcases mem with mem | mem
    · split at mem
      · rw [List.mem_singleton.1 mem] at ascii
        split at ascii <;> exact absurd ascii (by decide)
      · rcases mem_lowerChar_of_ascii mem ascii with ⟨-, rfl⟩ | ⟨-, rfl⟩ | ⟨-, rfl⟩
        · exact .inl ⟨c, List.mem_cons_self, rfl⟩
        · exact .inr (.inl rfl)
        · exact .inr (.inr rfl)
    · rcases ih mem with ⟨e, inRest, eq⟩ | letter
      · exact .inl ⟨e, List.mem_cons_of_mem _ inRest, eq⟩
      · exact .inr letter

theorem mem_lower_of_ascii {t : Text} {d : Char} (mem : d ∈ lower t) (ascii : d.toNat < 0x80) :
    (∃ c ∈ t, d = c.toLower) ∨ d = 'k' ∨ d = 'i' :=
  mem_lowerAfter_of_ascii mem ascii

end SyncedFile.Text
