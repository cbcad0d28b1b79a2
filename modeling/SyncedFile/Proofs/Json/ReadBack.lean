import SyncedFile.Proofs.Json.Numerals
import SyncedFile.Proofs.Json.Strings

/-!
# Reading back documents

A document on one line consists of printable ASCII, and it is read back as it is: names and texts
point by point but for halves of one pair, which are read as their character, and numbers in the
form in which they were written.

Main statements: `isPrintable_render`, `read?_render`.
-/

namespace SyncedFile.Json

variable {c : Char} {fuel : Nat} {t rest word : Text}

/-! ## Words -/

/-- The documents that stand without quotes, brackets or braces. -/
def isWord : Json → Bool
  | null | bool _ | int _ | float _ => true
  | text _ | array _ | object _ => false

namespace Reader

theorem scalar?_scalar {json : Json} (isWord : json.isWord = true) :
    scalar? (scalar json) = some json.reading ∧ ∀ c ∈ scalar json, isWordChar c = true := by
  cases json with
  | null => exact ⟨rfl, by decide⟩
  | bool b => cases b <;> exact ⟨rfl, by decide⟩
  | int i =>
    have number := isNumeral_ofInt i
    exact ⟨scalar?_of_isNumeral (.inl number), isWordChar_of_isNumeral number⟩
  | float x =>
    have number := isNumeral_render x
    exact ⟨scalar?_of_isNumeral number, isWordChar_of_number number⟩
  | text _ | array _ | object _ => cases isWord

theorem ne_of_isWordChar (inWord : isWordChar c = true) :
    isBlank c = false ∧ c ≠ '"' ∧ c ≠ '[' ∧ c ≠ ']' ∧ c ≠ '\x7b' ∧ c ≠ '\x7d' := by
  have other {d : Char} (outside : isWordChar d = false) : c ≠ d := by
    rintro rfl
    rw [inWord] at outside
    cases outside
  refine ⟨?_, other (by decide), other (by decide), other (by decide), other (by decide),
    other (by decide)⟩
  simp only [isBlank, List.mem_cons, List.not_mem_nil, or_false, decide_eq_false_iff_not, not_or]
  exact ⟨other (by decide), other (by decide), other (by decide), other (by decide)⟩

/-! ## Parts of a document -/

/-- No word goes on over a character that it cannot have. -/
theorem ends_cons (outside : isWordChar c = false) :
    ∀ d ∈ (c :: rest).head?, isWordChar d = false := by
  intro d first
  obtain rfl := Option.some.inj first
  exact outside

theorem skipBlanks_cons (notBlank : isBlank c = false) : skipBlanks (c :: t) = c :: t := by
  simp [skipBlanks, notBlank]

theorem skipBlanks_space : skipBlanks (' ' :: t) = skipBlanks t := by
  simp [skipBlanks, isBlank]

theorem value?_space : value? fuel (' ' :: t) = value? fuel t := by
  cases fuel with
  | zero => rfl
  | succ fuel => simp only [value?, skipBlanks_space]

theorem entries?_space : entries? fuel (' ' :: t) = entries? fuel t := by
  cases fuel with
  | zero => rfl
  | succ fuel => simp only [entries?, skipBlanks_space]

theorem items?_space : items? fuel (' ' :: t) = items? fuel t := by
  cases fuel with
  | zero => rfl
  | succ fuel => simp only [items?, value?_space]

theorem value?_word (nonempty : word ≠ []) (all : ∀ c ∈ word, isWordChar c = true)
    (ends : ∀ c ∈ rest.head?, isWordChar c = false) :
    value? (fuel + 1) (word ++ rest) = (scalar? word).map (·, rest) := by
  obtain ⟨c, more, rfl⟩ := List.exists_cons_of_ne_nil nonempty
  obtain ⟨notBlank, notQuote, notBracket, -, notBrace, -⟩ := ne_of_isWordChar (all c (by simp))
  have span := span_append all ends
  rw [List.cons_append] at span ⊢
  simp [value?, skipBlanks_cons notBlank, notQuote, notBracket, notBrace, span]

theorem scalar_ne_nil {json : Json} (isWord : json.isWord = true) : scalar json ≠ [] := by
  intro empty
  have read := (scalar?_scalar isWord).1
  rw [empty] at read
  cases read

theorem value?_scalar (json : Json) (isWord : json.isWord = true)
    (ends : ∀ c ∈ rest.head?, isWordChar c = false) :
    value? (fuel + 1) (scalar json ++ rest) = some (json.reading, rest) := by
  obtain ⟨read, all⟩ := scalar?_scalar isWord
  rw [value?_word (scalar_ne_nil isWord) all ends, read]
  rfl

theorem value?_string (points : Points) (rest : Text) :
    value? (fuel + 1) (string points ++ rest) = some (.text points.joined, rest) := by
  obtain ⟨inner, written, read⟩ := points?_string points rest
  rw [written, value?, skipBlanks_cons (by decide)]
  simp [read]

theorem value?_array (notBlank : isBlank c = false) (notClosing : c ≠ ']') :
    value? (fuel + 1) ('[' :: c :: t) =
      (items? fuel (c :: t)).map fun read => (.array read.1, read.2) := by
  have bracket : isBlank '[' = false := rfl
  simp [value?, skipBlanks_cons bracket, skipBlanks_cons notBlank, notClosing]

theorem value?_object :
    value? (fuel + 1) ('\x7b' :: '"' :: t) =
      (entries? fuel ('"' :: t)).map fun read => (.object read.1, read.2) := by
  have brace : isBlank '\x7b' = false := rfl
  have quote : isBlank '"' = false := rfl
  simp [value?, skipBlanks_cons brace, skipBlanks_cons quote]

theorem items?_last {item : Reading} (read : value? fuel t = some (item, ']' :: rest)) :
    items? (fuel + 1) t = some ([item], rest) := by
  have bracket : isBlank ']' = false := rfl
  simp [items?, read, skipBlanks_cons bracket]

theorem items?_cons {item : Reading} {more : List Reading}
    (read : value? fuel t = some (item, ',' :: ' ' :: rest))
    (others : items? fuel rest = some (more, word)) :
    items? (fuel + 1) t = some (item :: more, word) := by
  have comma : isBlank ',' = false := rfl
  simp [items?, read, skipBlanks_cons comma, items?_space, others]

section

variable {name : Text} {value : Reading}

theorem entries?_last (read : value? fuel t = some (value, '\x7d' :: rest)) :
    entries? (fuel + 1) (string name ++ ':' :: ' ' :: t) = some ([(name.points, value)], rest) := by
  have quote : isBlank '"' = false := rfl
  have colon : isBlank ':' = false := rfl
  have brace : isBlank '\x7d' = false := rfl
  obtain ⟨inner, written, named⟩ := points?_string name (':' :: ' ' :: t)
  rw [Points.joined_points] at named
  simp [written, entries?, skipBlanks_cons quote, named, afterColon?, skipBlanks_cons colon,
    value?_space, read, skipBlanks_cons brace]

theorem entries?_cons {more : List (Points × Reading)}
    (read : value? fuel t = some (value, ',' :: ' ' :: rest))
    (others : entries? fuel rest = some (more, word)) :
    entries? (fuel + 1) (string name ++ ':' :: ' ' :: t) =
      some ((name.points, value) :: more, word) := by
  have quote : isBlank '"' = false := rfl
  have colon : isBlank ':' = false := rfl
  have comma : isBlank ',' = false := rfl
  obtain ⟨inner, written, named⟩ := points?_string name (':' :: ' ' :: t)
  rw [Points.joined_points] at named
  simp [written, entries?, skipBlanks_cons quote, named, afterColon?, skipBlanks_cons colon,
    value?_space, read, skipBlanks_cons comma, entries?_space, others]

end

end Reader

/-! ## Documents as they are written -/

def itemsText (items : List Json) : Text :=
  Text.joinWith ", " (renderAll items)

def entriesText (entries : List (Text × Json)) : Text :=
  Text.joinWith ", " (renderEntries entries)

section

variable {json : Json}

theorem render_array (items : List Json) (rest : Text) :
    render (array items) ++ rest = '[' :: (itemsText items ++ ']' :: rest) := by
  simp [render, itemsText]

theorem render_object (entries : List (Text × Json)) (rest : Text) :
    render (object entries) ++ rest = '\x7b' :: (entriesText entries ++ '\x7d' :: rest) := by
  simp [render, entriesText]

theorem itemsText_cons_cons (first next : Json) (more : List Json) (rest : Text) :
    itemsText (first :: next :: more) ++ rest =
      render first ++ ',' :: ' ' :: (itemsText (next :: more) ++ rest) := by
  simp [itemsText, renderAll, Text.joinWith]

theorem entriesText_singleton (entry : Text × Json) (rest : Text) :
    entriesText [entry] ++ rest = string entry.1 ++ ':' :: ' ' :: (render entry.2 ++ rest) := by
  simp [entriesText, renderEntries, Text.joinWith]

theorem entriesText_cons_cons (entry other : Text × Json) (entries : List (Text × Json))
    (rest : Text) : entriesText (entry :: other :: entries) ++ rest =
      string entry.1 ++ ':' :: ' ' :: (render entry.2 ++
        ',' :: ' ' :: (entriesText (other :: entries) ++ rest)) := by
  simp [entriesText, renderEntries, Text.joinWith]

theorem render_of_isWord (isWord : json.isWord = true) : render json = scalar json := by
  cases json with
  | null | bool _ | int _ | float _ => rfl
  | text _ | array _ | object _ => cases isWord

theorem render_head (json : Json) :
    ∃ c more, render json = c :: more ∧ Reader.isBlank c = false ∧ c ≠ ']' := by
  cases word : json.isWord with
  | true =>
    obtain ⟨c, more, split⟩ := List.exists_cons_of_ne_nil (Reader.scalar_ne_nil word)
    have inWord := (Reader.scalar?_scalar word).2 c (by simp [split])
    obtain ⟨notBlank, -, -, notClosing, -⟩ := Reader.ne_of_isWordChar inWord
    exact ⟨c, more, (render_of_isWord word).trans split, notBlank, notClosing⟩
  | false =>
    cases json with
    | text t => exact ⟨'"', _, rfl, rfl, by decide⟩
    | array items => exact ⟨'[', _, rfl, rfl, by decide⟩
    | object entries => exact ⟨'\x7b', _, rfl, rfl, by decide⟩
    | _ => cases word

theorem itemsText_head (first : Json) (more : List Json) :
    ∃ c others, itemsText (first :: more) = c :: others ∧ Reader.isBlank c = false ∧ c ≠ ']' := by
  obtain ⟨c, others, split, facts⟩ := render_head first
  cases more with
  | nil => exact ⟨c, others, split, facts⟩
  | cons next more =>
    have written := itemsText_cons_cons first next more []
    rw [List.append_nil, split] at written
    exact ⟨c, _, written, facts⟩

theorem entriesText_head (entry : Text × Json) (entries : List (Text × Json)) :
    ∃ others, entriesText (entry :: entries) = '"' :: others := by
  cases entries with
  | nil => exact ⟨_, rfl⟩
  | cons other entries => exact ⟨_, rfl⟩

end

namespace Reader

mutual

/-- A document is read back at the start of a text that does not go on as a word would. -/
theorem value?_render : ∀ (json : Json) {fuel : Nat} {rest : Text}, (render json).length ≤ fuel →
    (∀ c ∈ rest.head?, isWordChar c = false) →
      value? fuel (render json ++ rest) = some (json.reading, rest)
  | json, 0, rest, enough, ends => by
    obtain ⟨c, more, split, -⟩ := render_head json
    simp [split] at enough
  | .null, fuel + 1, rest, enough, ends => value?_scalar .null rfl ends
  | .bool b, fuel + 1, rest, enough, ends => value?_scalar (.bool b) rfl ends
  | .int i, fuel + 1, rest, enough, ends => value?_scalar (.int i) rfl ends
  | .float x, fuel + 1, rest, enough, ends => value?_scalar (.float x) rfl ends
  | .text points, fuel + 1, rest, enough, ends => value?_string points rest
  | .array [], fuel + 1, rest, enough, ends => by
    show value? (fuel + 1) ('[' :: ']' :: rest) = _
    simp [value?, skipBlanks, isBlank, reading, readingAll]
  | .array (first :: more), fuel + 1, rest, enough, ends => by
    have written := render_array (first :: more) rest
    have shorter : (itemsText (first :: more)).length < fuel := by
      have lengths := congrArg List.length written
      simp at lengths
      omega
    have read := items?_render first more shorter rest
    obtain ⟨c, others, split, notBlank, notClosing⟩ := itemsText_head first more
    rw [split] at read written
    rw [written, List.cons_append, value?_array notBlank notClosing, ← List.cons_append, read]
    rfl
  | .object [], fuel + 1, rest, enough, ends => by
    show value? (fuel + 1) ('\x7b' :: '\x7d' :: rest) = _
    simp [value?, skipBlanks, isBlank, reading, readingEntries]
  | .object (entry :: entries), fuel + 1, rest, enough, ends => by
    have written := render_object (entry :: entries) rest
    have shorter : (entriesText (entry :: entries)).length < fuel := by
      have lengths := congrArg List.length written
      simp at lengths
      omega
    have read := entries?_render entry entries shorter rest
    obtain ⟨others, split⟩ := entriesText_head entry entries
    rw [split] at read written
    rw [written, List.cons_append, value?_object, ← List.cons_append, read]
    rfl

theorem items?_render : ∀ (first : Json) (more : List Json) {fuel : Nat},
    (itemsText (first :: more)).length < fuel → ∀ rest : Text,
      items? fuel (itemsText (first :: more) ++ ']' :: rest) =
        some (readingAll (first :: more), rest)
  | first, more, 0, enough, rest => absurd enough (Nat.not_lt_zero _)
  | first, [], fuel + 1, enough, rest =>
    items?_last (value?_render first (Nat.le_of_lt_succ enough) (ends_cons rfl))
  | first, next :: more, fuel + 1, enough, rest => by
    have lengths := congrArg List.length (itemsText_cons_cons first next more [])
    simp at lengths
    rw [itemsText_cons_cons]
    apply items?_cons
    · exact value?_render first (by omega) (ends_cons rfl)
    · exact items?_render next more (by omega) rest

theorem entries?_render : ∀ (entry : Text × Json) (entries : List (Text × Json)) {fuel : Nat},
    (entriesText (entry :: entries)).length < fuel → ∀ rest : Text,
      entries? fuel (entriesText (entry :: entries) ++ '\x7d' :: rest) =
        some (readingEntries (entry :: entries), rest)
  | _, _, 0, enough, rest => absurd enough (Nat.not_lt_zero _)
  | (name, json), [], fuel + 1, enough, rest => by
    have lengths := congrArg List.length (entriesText_singleton (name, json) [])
    simp at lengths
    rw [entriesText_singleton]
    exact entries?_last (value?_render json (by omega) (ends_cons rfl))
  | (name, json), other :: entries, fuel + 1, enough, rest => by
    have lengths := congrArg List.length (entriesText_cons_cons (name, json) other entries [])
    simp at lengths
    rw [entriesText_cons_cons]
    apply entries?_cons
    · exact value?_render json (by omega) (ends_cons rfl)
    · exact entries?_render other entries (by omega) rest

end

end Reader

/-! ## Whole texts -/

theorem isPrintable_of_isWordChar (inWord : Reader.isWordChar c = true) :
    0x20 ≤ c.toNat ∧ c.toNat ≤ 0x7E := by
  -- Letters and digits are three ranges of characters, each of them printable.
  have alphanum : c.isAlphanum = (decide (c.val ≥ 'A'.val ∧ c.val ≤ 'Z'.val) ||
      decide (c.val ≥ 'a'.val) && decide (c.val ≤ 'z'.val) ||
      decide (c.val ≥ '0'.val) && decide (c.val ≤ '9'.val)) := rfl
  have within (first last : Char) (bounds : 0x20 ≤ first.toNat ∧ last.toNat ≤ 0x7E)
      (from_le : first.val ≤ c.val) (le_to : c.val ≤ last.val) :
      0x20 ≤ c.toNat ∧ c.toNat ≤ 0x7E :=
    ⟨Nat.le_trans bounds.1 (UInt32.le_iff_toNat_le.1 from_le),
      Nat.le_trans (UInt32.le_iff_toNat_le.1 le_to) bounds.2⟩
  have marks : ∀ d ∈ ['+', '-', '.'], 0x20 ≤ d.toNat ∧ d.toNat ≤ 0x7E := by decide
  simp only [Reader.isWordChar, alphanum, Bool.or_eq_true, Bool.and_eq_true,
    decide_eq_true_eq] at inWord
  rcases inWord with ((upper | lower) | digit) | mark
  · exact within 'A' 'Z' (by decide) upper.1 upper.2
  · exact within 'a' 'z' (by decide) lower.1 lower.2
  · exact within '0' '9' (by decide) digit.1 digit.2
  · exact marks c mark

theorem isPrintable_scalar (json : Json) (isWord : json.isWord = true) :
    (scalar json).IsPrintable :=
  fun c mem => isPrintable_of_isWordChar ((Reader.scalar?_scalar isWord).2 c mem)

mutual

/-- No character of a document is a line break, or anything else that is not printable ASCII. -/
theorem isPrintable_render : ∀ json : Json, (render json).IsPrintable
  | .null => isPrintable_scalar .null rfl
  | .bool b => isPrintable_scalar (.bool b) rfl
  | .int i => isPrintable_scalar (.int i) rfl
  | .float x => isPrintable_scalar (.float x) rfl
  | .text points => isPrintable_string points
  | .array items => by
    have inside : (itemsText items).IsPrintable :=
      .joinWith (by decide) (isPrintable_renderAll items)
    exact Text.IsPrintable.append_iff.2 ⟨Text.IsPrintable.cons_iff.2 ⟨by decide, inside⟩, by decide⟩
  | .object entries => by
    have inside : (entriesText entries).IsPrintable :=
      .joinWith (by decide) (isPrintable_renderEntries entries)
    exact Text.IsPrintable.append_iff.2 ⟨Text.IsPrintable.cons_iff.2 ⟨by decide, inside⟩, by decide⟩

theorem isPrintable_renderAll : ∀ items : List Json, ∀ piece ∈ renderAll items, piece.IsPrintable
  | [] => by simp [renderAll]
  | json :: rest => by
    rw [renderAll]
    exact List.forall_mem_cons.2 ⟨isPrintable_render json, isPrintable_renderAll rest⟩

theorem isPrintable_renderEntries :
    ∀ entries : List (Text × Json), ∀ piece ∈ renderEntries entries, piece.IsPrintable
  | [] => by simp [renderEntries]
  | (key, json) :: rest => by
    rw [renderEntries]
    refine List.forall_mem_cons.2 ⟨?_, isPrintable_renderEntries rest⟩
    exact Text.IsPrintable.append_iff.2 ⟨Text.IsPrintable.append_iff.2
      ⟨isPrintable_string key, by decide⟩, isPrintable_render json⟩

end

/-- A document is read back from its text. -/
theorem read?_render (json : Json) : read? (render json) = some json.reading := by
  have read : Reader.value? (render json).length (render json ++ []) = some (json.reading, []) :=
    Reader.value?_render json (Nat.le_refl _) (by simp)
  rw [List.append_nil] at read
  rw [read?, read]
  rfl

/-- What is no document is not read: here a number with a zero before its digits. -/
example : (read? "[01]").isNone = true := by decide +kernel

end SyncedFile.Json
