import SyncedFile.Proofs.Json.Reader

/-!
# Strings in JSON

A text is read back from its form in quotes, and that form is printable ASCII. A character that is
not is written by its number, one beyond the basic plane as a surrogate pair; since no character is
half a pair, the reader tells the two ways apart. Halves that are written next to each other are
read as the character of both.

Main statements: `Reader.points?_string`, `isPrintable_string`.
-/

namespace SyncedFile

/-! ## Printable text -/

/-- All characters are printable ASCII, so there is no line break among them. -/
def Text.IsPrintable (t : Text) : Prop :=
  ∀ c ∈ t, 0x20 ≤ c.toNat ∧ c.toNat ≤ 0x7E

namespace Text.IsPrintable

instance (t : Text) : Decidable t.IsPrintable :=
  inferInstanceAs (Decidable (∀ c ∈ t, 0x20 ≤ c.toNat ∧ c.toNat ≤ 0x7E))

variable {t u : Text} {c : Char}

theorem nil : IsPrintable [] := by
  simp [IsPrintable]

theorem cons_iff : IsPrintable (c :: t) ↔ (0x20 ≤ c.toNat ∧ c.toNat ≤ 0x7E) ∧ t.IsPrintable :=
  List.forall_mem_cons

theorem append_iff : IsPrintable (t ++ u) ↔ t.IsPrintable ∧ u.IsPrintable :=
  List.forall_mem_append

theorem flatMap {α : Type} {f : α → Text} (printable : ∀ a, (f a).IsPrintable) (row : List α) :
    IsPrintable (row.flatMap f) := by
  intro c mem
  obtain ⟨a, -, mem⟩ := List.mem_flatMap.1 mem
  exact printable a c mem

theorem joinWith {sep : Text} (printable : sep.IsPrintable) :
    ∀ {pieces : List Text}, (∀ piece ∈ pieces, piece.IsPrintable) →
      IsPrintable (Text.joinWith sep pieces)
  | [], _ => nil
  | [piece], all => all piece (by simp)
  | piece :: next :: more, all => by
    have rest : IsPrintable (Text.joinWith sep (next :: more)) :=
      joinWith printable fun piece mem => all piece (List.mem_cons_of_mem _ mem)
    exact append_iff.2 ⟨append_iff.2 ⟨all piece (by simp), printable⟩, rest⟩

end Text.IsPrintable

/-! ## Numbers of four digits -/

namespace Text.Hex

variable {n : Nat}

theorem toDigits_succ (big : 16 ≤ n) :
    Nat.toDigits 16 n = Nat.toDigits 16 (n / 16) ++ [digit (n % 16)] :=
  Nat.toDigits_of_base_le (by decide) big

theorem toDigits_of_lt (small : n < 16) : Nat.toDigits 16 n = [digit n] :=
  Nat.toDigits_of_lt_base small

theorem ofNat_four (small : n < 0x10000) :
    ofNat 4 n = [digit (n / 4096), digit (n / 256 % 16), digit (n / 16 % 16), digit (n % 16)] := by
  have zero : digit 0 = '0' := rfl
  by_cases one : n < 16
  · have parts : n / 4096 = 0 ∧ n / 256 = 0 ∧ n / 16 = 0 ∧ n % 16 = n := by omega
    simp [ofNat, toDigits_of_lt one, padLeft, parts, zero]
  by_cases two : n < 256
  · have parts : n / 4096 = 0 ∧ n / 256 = 0 ∧ n / 16 % 16 = n / 16 := by omega
    simp [ofNat, toDigits_succ (Nat.not_lt.1 one), toDigits_of_lt (show n / 16 < 16 by omega),
      padLeft, parts, zero]
  by_cases three : n < 4096
  · have parts : n / 4096 = 0 ∧ n / 256 % 16 = n / 256 := by omega
    simp [ofNat, toDigits_succ (Nat.not_lt.1 one), toDigits_succ (show 16 ≤ n / 16 by omega),
      Nat.div_div_eq_div_mul, toDigits_of_lt (show n / 256 < 16 by omega), padLeft, parts, zero]
  · simp [ofNat, toDigits_succ (Nat.not_lt.1 one), toDigits_succ (show 16 ≤ n / 16 by omega),
      Nat.div_div_eq_div_mul, toDigits_succ (show 16 ≤ n / 256 by omega),
      toDigits_of_lt (show n / 4096 < 16 by omega), padLeft]

theorem isPrintable_digit : ∀ n < 16, 0x20 ≤ (digit n).toNat ∧ (digit n).toNat ≤ 0x7E := by
  decide

end Text.Hex

namespace Json

variable {c : Char} {n fuel : Nat} {rest : Text}

theorem unit_append (n : Nat) (rest : Text) :
    unit n ++ rest = '\\' :: 'u' :: (Text.Hex.ofNat 4 n ++ rest) := rfl

theorem isPrintable_unit (small : n < 0x10000) : (unit n).IsPrintable := by
  have lead : Text.IsPrintable "\\u".toList := by decide
  refine Text.IsPrintable.append_iff.2 ⟨lead, ?_⟩
  rw [Text.Hex.ofNat_four small]
  have digits := Text.Hex.isPrintable_digit
  simp only [Text.IsPrintable, List.mem_cons, List.not_mem_nil, or_false]
  rintro c (rfl | rfl | rfl | rfl)
  all_goals exact digits _ (by omega)

theorem not_half (c : Char) :
    Reader.isHighHalf c.toNat = false ∧ Reader.isLowHalf c.toNat = false := by
  have valid : c.toNat < 0xD800 ∨ 0xDFFF < c.toNat ∧ c.toNat < 0x110000 := c.valid
  simp only [Reader.isHighHalf, Reader.isLowHalf, Bool.and_eq_false_iff, decide_eq_false_iff_not]
  omega

theorem toNat_lt (c : Char) : c.toNat < 0x110000 := by
  have valid : c.toNat < 0xD800 ∨ 0xDFFF < c.toNat ∧ c.toNat < 0x110000 := c.valid
  omega

/-- How a character is written: by a letter after a backslash, as it is, by its number, or as the
two halves of a pair. -/
theorem escapeChar_cases (c : Char) :
    (∃ letter, escapeChar c = ['\\', letter] ∧ letter ≠ 'u' ∧ Reader.escaped? letter = some c ∧
      0x20 ≤ letter.toNat ∧ letter.toNat ≤ 0x7E) ∨
    (escapeChar c = [c] ∧ c ≠ '"' ∧ c ≠ '\\' ∧ 0x20 ≤ c.toNat ∧ c.toNat ≤ 0x7E) ∨
    (escapeChar c = unit c.toNat ∧ c.toNat < 0x10000) ∨
    (0x10000 ≤ c.toNat ∧ escapeChar c = unit (0xD800 + (c.toNat - 0x10000) / 0x400)
      ++ unit (0xDC00 + (c.toNat - 0x10000) % 0x400)) := by
  unfold escapeChar
  split
  case isTrue quote => exact .inl ⟨'"', rfl, by decide, by rw [quote]; rfl, by decide⟩
  split
  case isTrue backslash => exact .inl ⟨'\\', rfl, by decide, by rw [backslash]; rfl, by decide⟩
  split
  case isTrue newline => exact .inl ⟨'n', rfl, by decide, by rw [newline]; rfl, by decide⟩
  split
  case isTrue carriage => exact .inl ⟨'r', rfl, by decide, by rw [carriage]; rfl, by decide⟩
  split
  case isTrue tab => exact .inl ⟨'t', rfl, by decide, by rw [tab]; rfl, by decide⟩
  split
  case isTrue back =>
    have same : c = Char.ofNat 0x08 := by rw [← back, Char.ofNat_toNat]
    exact .inl ⟨'b', rfl, by decide, by rw [same]; rfl, by decide⟩
  split
  case isTrue feed =>
    have same : c = Char.ofNat 0x0C := by rw [← feed, Char.ofNat_toNat]
    exact .inl ⟨'f', rfl, by decide, by rw [same]; rfl, by decide⟩
  split
  case isTrue plain => exact .inr (.inl ⟨rfl, ‹_›, ‹_›, plain.1, by omega⟩)
  split
  case isTrue low => exact .inr (.inr (.inl ⟨rfl, low⟩))
  case isFalse high => exact .inr (.inr (.inr ⟨Nat.not_lt.1 high, rfl⟩))

theorem isPrintable_escapeChar (c : Char) : (escapeChar c).IsPrintable := by
  have bound := toNat_lt c
  rcases escapeChar_cases c with
    ⟨letter, written, -, -, printable⟩ | ⟨written, -, -, printable⟩ | ⟨written, low⟩ | ⟨high, written⟩
  · rw [written]
    exact Text.IsPrintable.cons_iff.2 ⟨by decide, Text.IsPrintable.cons_iff.2 ⟨printable, .nil⟩⟩
  · rw [written]
    exact Text.IsPrintable.cons_iff.2 ⟨printable, .nil⟩
  · rw [written]
    exact isPrintable_unit low
  · rw [written]
    exact Text.IsPrintable.append_iff.2
      ⟨isPrintable_unit (by omega), isPrintable_unit (by omega)⟩

theorem isPrintable_escapePoint (point : Point) : (escapePoint point).IsPrintable := by
  cases point with
  | char c => exact isPrintable_escapeChar c
  | half n => exact isPrintable_unit (by simp only [Point.halves]; omega)

theorem isPrintable_string (points : Points) : (string points).IsPrintable := by
  have quote : Text.IsPrintable ['"'] := by decide
  exact Text.IsPrintable.append_iff.2
    ⟨Text.IsPrintable.append_iff.2 ⟨quote, .flatMap isPrintable_escapePoint points⟩, quote⟩

namespace Reader

theorem unit?_ofNat (small : n < 0x10000) (rest : Text) :
    unit? (Text.Hex.ofNat 4 n ++ rest) = some (n, rest) := by
  have digits := Text.Hex.value?_digit
  have whole : ((n / 4096 * 16 + n / 256 % 16) * 16 + n / 16 % 16) * 16 + n % 16 = n := by omega
  simp [Text.Hex.ofNat_four small, unit?, digits (n / 4096) (by omega),
    digits (n / 256 % 16) (by omega), digits (n / 16 % 16) (by omega),
    digits (n % 16) (by omega), whole]

theorem ofNat_toNat (c : Char) : Point.ofNat c.toNat = .char c := by
  have valid : c.toNat < 0xD800 ∨ 0xDFFF < c.toNat ∧ c.toNat < 0x110000 := c.valid
  rw [Point.ofNat, dif_neg (by simp only [Point.halves]; omega), Char.ofNat_toNat]

theorem ofNat_half (half : Fin 0x800) : Point.ofNat (Point.halves + half) = .half half := by
  rw [Point.ofNat, dif_pos (by omega)]
  simp

/-- A unit that no second half of its pair follows stands alone. -/
theorem point?_unit (small : n < 0x10000) (alone : secondHalf? n rest = none) :
    point? (unit n ++ rest) = some (.ofNat n, rest) := by
  simp [unit_append, point?, unit?_ofNat small, alone]

theorem secondHalf?_of_not_high (notHigh : isHighHalf n = false) (t : Text) :
    secondHalf? n t = none := by
  rw [secondHalf?.eq_def]
  split
  · next rest =>
    cases unit? rest with
    | none => rfl
    | some read => simp [notHigh]
  · rfl

theorem secondHalf?_unit (small : n < 0x10000) (high : Nat) (rest : Text) :
    secondHalf? high (unit n ++ rest) =
      if isHighHalf high && isLowHalf n then
        some (Char.ofNat (0x10000 + (high - 0xD800) * 0x400 + (n - 0xDC00)), rest)
      else none := by
  simp [unit_append, secondHalf?, unit?_ofNat small]

theorem point?_pair {high low : Nat} (isHigh : isHighHalf high = true)
    (isLow : isLowHalf low = true) (rest : Text) : point? (unit high ++ (unit low ++ rest)) =
      some (.char (Char.ofNat (0x10000 + (high - 0xD800) * 0x400 + (low - 0xDC00))), rest) := by
  have ranges := And.intro isHigh isLow
  simp only [isHighHalf, isLowHalf, Bool.and_eq_true, decide_eq_true_eq] at ranges
  have second := secondHalf?_unit (show low < 0x10000 by omega) high rest
  rw [if_pos (by simp [isHigh, isLow])] at second
  simp [unit_append high, point?, unit?_ofNat (show high < 0x10000 by omega), second]

theorem point?_escapeChar (c : Char) (rest : Text) :
    point? (escapeChar c ++ rest) = some (.char c, rest) := by
  rcases escapeChar_cases c with
    ⟨letter, written, notUnit, read, -⟩ | ⟨written, -, notBackslash, printable, -⟩ | ⟨written, low⟩ |
    ⟨high, written⟩
  · rw [written]
    show point? ('\\' :: letter :: rest) = _
    simp [point?, read]
  · rw [written]
    show point? (c :: rest) = _
    simp [point?, notBackslash, printable]
  · rw [written, point?_unit low (secondHalf?_of_not_high (not_half c).1 rest), ofNat_toNat]
  · have bound := toNat_lt c
    have isHigh : isHighHalf (0xD800 + (c.toNat - 0x10000) / 0x400) = true := by
      simp only [isHighHalf, Bool.and_eq_true, decide_eq_true_eq]
      omega
    have isLow : isLowHalf (0xDC00 + (c.toNat - 0x10000) % 0x400) = true := by
      simp only [isLowHalf, Bool.and_eq_true, decide_eq_true_eq]
      omega
    have whole : 0x10000 + (0xD800 + (c.toNat - 0x10000) / 0x400 - 0xD800) * 0x400
        + (0xDC00 + (c.toNat - 0x10000) % 0x400 - 0xDC00) = c.toNat := by omega
    rw [written, List.append_assoc, point?_pair isHigh isLow, whole, Char.ofNat_toNat]

theorem secondHalf?_escapeChar (high : Nat) (c : Char) (rest : Text) :
    secondHalf? high (escapeChar c ++ rest) = none := by
  rcases escapeChar_cases c with
    ⟨letter, written, notUnit, -⟩ | ⟨written, -, notBackslash, -⟩ | ⟨written, low⟩ | ⟨large, written⟩
  · rw [written]
    show secondHalf? high ('\\' :: letter :: rest) = none
    simp [secondHalf?, notUnit]
  · rw [written]
    show secondHalf? high (c :: rest) = none
    simp [secondHalf?, notBackslash]
  · rw [written, secondHalf?_unit low, if_neg (by simp [(not_half c).2])]
  · have bound := toNat_lt c
    have notLow : isLowHalf (0xD800 + (c.toNat - 0x10000) / 0x400) = false := by
      simp only [isLowHalf, Bool.and_eq_false_iff, decide_eq_false_iff_not]
      omega
    rw [written, List.append_assoc, secondHalf?_unit (by omega), if_neg (by simp [notLow])]

/-! ## Halves -/

variable {half : Fin 0x800}

theorem isHighHalf_half (half : Fin 0x800) :
    isHighHalf (Point.halves + half) = Point.leads half := by
  simp only [isHighHalf, Point.leads, Point.halves]
  grind

theorem isLowHalf_half (half : Fin 0x800) :
    isLowHalf (Point.halves + half) = !Point.leads half := by
  have bound := half.isLt
  simp only [isLowHalf, Point.leads, Point.halves]
  grind

theorem point?_half (alone : secondHalf? (Point.halves + half) rest = none) :
    point? (escapePoint (.half half) ++ rest) = some (.half half, rest) := by
  rw [escapePoint, point?_unit (by simp only [Point.halves]; omega) alone, ofNat_half]

theorem escapeChar_head (c : Char) : ∃ d more, escapeChar c = d :: more ∧ d ≠ '"' := by
  rcases escapeChar_cases c with
    ⟨letter, written, -⟩ | ⟨written, notQuote, -⟩ | ⟨written, -⟩ | ⟨-, written⟩
  · exact ⟨'\\', [letter], written, by decide⟩
  · exact ⟨c, [], written, notQuote⟩
  · exact ⟨'\\', _, written, by decide⟩
  · exact ⟨'\\', _, written, by decide⟩

theorem escapePoint_head (point : Point) : ∃ d more, escapePoint point = d :: more ∧ d ≠ '"' := by
  cases point with
  | char c => exact escapeChar_head c
  | half n => exact ⟨'\\', _, rfl, by decide⟩

theorem length_le_flatMap_escapePoint (points : Points) :
    points.length ≤ (points.flatMap escapePoint).length := by
  induction points with
  | nil => simp
  | cons point points ih =>
    obtain ⟨d, more, written, -⟩ := escapePoint_head point
    rw [List.flatMap_cons, List.length_append, List.length_cons, written, List.length_cons]
    omega

/-- One step of the reader, over what is written for one point or for two. -/
theorem points?_step {first point : Point} {more after : Text} {points : Points}
    (read : point? (escapePoint first ++ more) = some (point, after))
    (others : points? fuel after = some (points, rest)) :
    points? (fuel + 1) (escapePoint first ++ more) = some (point :: points, rest) := by
  obtain ⟨d, tail, written, notQuote⟩ := escapePoint_head first
  rw [written, List.cons_append] at read ⊢
  simp [points?, notQuote, read, others]

theorem points?_flatMap_escapePoint (points : Points) (rest : Text) (enough : points.length < fuel) :
    points? fuel (points.flatMap escapePoint ++ '"' :: rest) = some (points.joined, rest) := by
  -- The recursion of joining is that of the reader, which takes a pair in one step.
  fun_induction Points.joined points generalizing fuel with
  | case1 =>
    obtain ⟨fuel, rfl⟩ := Nat.exists_eq_succ_of_ne_zero (Nat.ne_of_gt enough)
    rfl
  | case2 c points ih =>
    obtain ⟨fuel, rfl⟩ := Nat.exists_eq_succ_of_ne_zero (Nat.ne_of_gt (Nat.zero_lt_of_lt enough))
    rw [List.flatMap_cons, List.append_assoc]
    exact points?_step (point?_escapeChar c _) (ih (Nat.lt_of_succ_lt_succ enough))
  | case3 first =>
    obtain ⟨fuel, rfl⟩ := Nat.exists_eq_succ_of_ne_zero (Nat.ne_of_gt (Nat.zero_lt_of_lt enough))
    obtain ⟨fuel, rfl⟩ := Nat.exists_eq_succ_of_ne_zero
      (Nat.ne_of_gt (Nat.lt_of_succ_lt_succ enough))
    rw [List.flatMap_cons, List.append_assoc]
    exact points?_step (point?_half rfl) rfl
  | case4 first c points ih =>
    obtain ⟨fuel, rfl⟩ := Nat.exists_eq_succ_of_ne_zero (Nat.ne_of_gt (Nat.zero_lt_of_lt enough))
    have shorter := Nat.lt_of_succ_lt_succ enough
    obtain ⟨fuel, rfl⟩ := Nat.exists_eq_succ_of_ne_zero (Nat.ne_of_gt (Nat.zero_lt_of_lt shorter))
    rw [List.flatMap_cons, List.flatMap_cons, List.append_assoc, List.append_assoc]
    exact points?_step (point?_half (secondHalf?_escapeChar _ c _))
      (points?_step (point?_escapeChar c _) (ih (Nat.lt_of_succ_lt_succ shorter)))
  | case5 first second points both ih =>
    obtain ⟨fuel, rfl⟩ := Nat.exists_eq_succ_of_ne_zero (Nat.ne_of_gt (Nat.zero_lt_of_lt enough))
    simp only [Bool.and_eq_true, Bool.not_eq_true'] at both
    have read := point?_pair ((isHighHalf_half first).trans both.1)
      ((isLowHalf_half second).trans (by rw [both.2]; rfl)) (points.flatMap escapePoint ++ '"' :: rest)
    have lead : Point.halves + first.val - 0xD800 = first.val := Nat.add_sub_cancel_left ..
    have place : Point.halves + second.val - 0xDC00 = second.val - 0x400 :=
      Nat.add_sub_add_left 0xD800 second.val 0x400
    rw [lead, place] at read
    rw [List.flatMap_cons, List.flatMap_cons, List.append_assoc, List.append_assoc]
    refine points?_step ?_ (ih (Nat.lt_trans (Nat.lt_succ_self _) (Nat.lt_of_succ_lt_succ enough)))
    exact read
  | case6 first second points apart ih =>
    obtain ⟨fuel, rfl⟩ := Nat.exists_eq_succ_of_ne_zero (Nat.ne_of_gt (Nat.zero_lt_of_lt enough))
    have alone : secondHalf? (Point.halves + first)
        ((Point.half second :: points).flatMap escapePoint ++ '"' :: rest) = none := by
      rw [List.flatMap_cons, List.append_assoc, escapePoint,
        secondHalf?_unit (by simp only [Point.halves]; omega), isHighHalf_half, isLowHalf_half,
        if_neg apart]
    rw [List.flatMap_cons, List.append_assoc]
    exact points?_step (point?_half alone) (ih (Nat.lt_of_succ_lt_succ enough))

/-- Points are read back joined from their form in quotes. -/
theorem points?_string (points : Points) (rest : Text) :
    ∃ inner, string points ++ rest = '"' :: inner ∧
      points? inner.length inner = some (points.joined, rest) := by
  refine ⟨points.flatMap escapePoint ++ '"' :: rest, by simp [string], ?_⟩
  have longer := length_le_flatMap_escapePoint points
  apply points?_flatMap_escapePoint
  rw [List.length_append, List.length_cons]
  omega

end Reader
end Json
end SyncedFile
