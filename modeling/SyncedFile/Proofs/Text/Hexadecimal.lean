import SyncedFile.Text.Hex

/-!
# What hexadecimal text stands for

A text stands for octets if it has two digits of either case for each of them, and white space in no
place but before, between and after the pairs. Reading accepts these texts and no others. What is
written is one of them, in lower case and without white space.

* `Spells`, `decode_eq_some_iff` — the texts that are read, and as what;
* `lower_of_mem_encode` — the form of what is written.
-/

namespace SyncedFile.Text.Hex

/-- The text stands for these octets. -/
inductive Spells : Text → List UInt8 → Prop where
  | nothing : Spells [] []
  | space {c : Char} {t : Text} {bytes : List UInt8} :
      isSpace c = true → Spells t bytes → Spells (c :: t) bytes
  | pair {c d : Char} {high low : Nat} {t : Text} {bytes : List UInt8} :
      value? c = some high → value? d = some low → Spells t bytes →
      Spells (c :: d :: t) (UInt8.ofNat (16 * high + low) :: bytes)

theorem isSpace_of_value? {c : Char} {n : Nat} (digit : value? c = some n) :
    isSpace c = false := by
  have noDigits : ∀ d ∈ [' ', '\t', '\n', '\r', Char.ofNat 0x0B, Char.ofNat 0x0C],
      value? d = none := by decide
  by_cases mem : c ∈ [' ', '\t', '\n', '\r', Char.ofNat 0x0B, Char.ofNat 0x0C]
  · rw [noDigits c mem] at digit
    cases digit
  · exact decide_eq_false mem

theorem decode_space {c : Char} (space : isSpace c = true) (t : Text) :
    decode (c :: t) = decode t := by
  cases t with
  | nil => simp only [decode, space, if_true]
  | cons d rest => rw [decode, if_pos space]

theorem spells_of_decode {t : Text} {bytes : List UInt8} (read : decode t = some bytes) :
    Spells t bytes := by
  -- The recursion of the reader: white space is passed over, two digits are one octet.
  fun_induction decode t generalizing bytes with
  | case1 =>
    obtain rfl := Option.some.inj read
    exact .nothing
  | case2 c space =>
    obtain rfl := Option.some.inj read
    exact .space space .nothing
  | case3 => cases read
  | case4 c d rest space ih => exact .space space (ih read)
  | case5 c d rest notSpace high low digitLow digitHigh ih =>
    obtain ⟨others, readOthers, rfl⟩ := Option.map_eq_some_iff.1 read
    exact .pair digitHigh digitLow (ih readOthers)
  | case6 => cases read

/-- Exactly the texts that stand for octets are read, and as those. -/
theorem decode_eq_some_iff {t : Text} {bytes : List UInt8} :
    decode t = some bytes ↔ Spells t bytes := by
  constructor
  · exact spells_of_decode
  · intro spells
    induction spells with
    | nothing => rfl
    | space space _ ih => rw [decode_space space, ih]
    | pair high low _ ih =>
      have notSpace := isSpace_of_value? high
      simp [decode, notSpace, high, low, ih]

/-! ## What is written -/

def lowerDigits : List Char := "0123456789abcdef".toList

theorem digit_mem_lowerDigits : ∀ n < 16, digit n ∈ lowerDigits := by decide

theorem lower_of_mem_encode {bytes : List UInt8} {c : Char} (mem : c ∈ encode bytes) :
    c ∈ lowerDigits := by
  obtain ⟨b, -, mem⟩ := List.mem_flatMap.1 mem
  have small : b.toNat < 256 := b.toNat_lt
  simp only [octet, List.mem_cons, List.not_mem_nil, or_false] at mem
  rcases mem with rfl | rfl
  · exact digit_mem_lowerDigits _ (by omega)
  · exact digit_mem_lowerDigits _ (by omega)

end SyncedFile.Text.Hex
