/-!
# Text

A text is the list of its characters. This module holds the ways a text is taken apart at a
separator and put together again, its length in UTF-8 octets, and its numerals.

* `splitOn`, `joinWith` — pieces between separators, and back;
* `cut`, `cutLast` — the two sides of the first, or the last, separator;
* `utf8`, `byteLength` — octets of the UTF-8 form and their number;
* `ofNat`, `ofInt`, `digits?` — decimal numerals;
* `Ranges` — sets of characters as tables of code points;
* `isBlank`, `lines`, `trimEnd` — white space, and what ends a line.

Main statements: joining undoes splitting (`joinWith_splitOn`), and `byteLength` counts `utf8`
(`length_utf8`).
-/

namespace SyncedFile

/-- A text is its characters in order. -/
abbrev Text := List Char

instance : Coe String Text := ⟨String.toList⟩

instance : LawfulBEq Text := inferInstance

namespace Text

/-! ## Pieces between separators -/

/-- The pieces of a text between the separators `sep`: one more than there are separators. -/
def splitOn (sep : Char) : Text → List Text
  | [] => [[]]
  | c :: rest =>
    if c = sep then [] :: splitOn sep rest else (splitOn sep rest).modifyHead (c :: ·)

def joinWith (sep : Text) : List Text → Text
  | [] => []
  | [piece] => piece
  | piece :: next :: more => piece ++ sep ++ joinWith sep (next :: more)

theorem splitOn_ne_nil (sep : Char) (t : Text) : splitOn sep t ≠ [] := by
  induction t with
  | nil => simp [splitOn]
  | cons c rest ih =>
    by_cases h : c = sep
    · simp [splitOn, h]
    · cases hs : splitOn sep rest with
      | nil => exact absurd hs ih
      | cons p ps => simp [splitOn, h, hs]

/-- Joining the pieces of a text at their separator gives the text back. -/
theorem joinWith_splitOn (sep : Char) (t : Text) : joinWith [sep] (splitOn sep t) = t := by
  induction t with
  | nil => rfl
  | cons c rest ih =>
    cases hs : splitOn sep rest with
    | nil => exact absurd hs (splitOn_ne_nil sep rest)
    | cons p ps =>
      rw [hs] at ih
      by_cases h : c = sep
      · subst h; simp [splitOn, hs, joinWith, ih]
      · cases ps with
        | nil => simp_all [splitOn, joinWith]
        | cons q qs => simp_all [splitOn, joinWith]

/-! ## Two sides of one separator -/

/-- The text before the first `sep` and, where there is one, the text after it. -/
def cut (sep : Char) : Text → Text × Option Text
  | [] => ([], none)
  | c :: rest =>
    if c = sep then ([], some rest) else (c :: (cut sep rest).1, (cut sep rest).2)

/-- The text before the last `sep`, where there is one, and the text after it. -/
def cutLast (sep : Char) : Text → Option Text × Text
  | [] => (none, [])
  | c :: rest =>
    match cutLast sep rest with
    | (some before, after) => (some (c :: before), after)
    | (none, after) => if c = sep then (some [], after) else (none, c :: after)

def spanUntil (seps : List Char) (t : Text) : Text × Text :=
  (t.takeWhile (· ∉ seps), t.dropWhile (· ∉ seps))

/-- The text without its last character, if that is `c`. -/
def dropFinal (c : Char) (t : Text) : Text :=
  if t.getLast? = some c then t.dropLast else t

/-! ## Octets -/

def utf8 (t : Text) : List UInt8 :=
  t.flatMap String.utf8EncodeChar

def byteLength : Text → Nat
  | [] => 0
  | c :: t => c.utf8Size + byteLength t

@[simp] theorem byteLength_nil : byteLength [] = 0 := rfl

@[simp] theorem byteLength_cons (c : Char) (t : Text) :
    byteLength (c :: t) = c.utf8Size + byteLength t := rfl

@[simp] theorem byteLength_append (t u : Text) :
    byteLength (t ++ u) = byteLength t + byteLength u := by
  induction t with
  | nil => simp
  | cons c t ih => simp [ih, Nat.add_assoc]

theorem byteLength_eq_length {t : Text} (single : ∀ c ∈ t, c.utf8Size = 1) :
    byteLength t = t.length := by
  induction t with
  | nil => rfl
  | cons c t ih =>
    rw [byteLength_cons, single c List.mem_cons_self,
      ih fun d mem => single d (List.mem_cons_of_mem _ mem), List.length_cons, Nat.add_comm]

theorem length_le_byteLength (t : Text) : t.length ≤ byteLength t := by
  induction t with
  | nil => exact Nat.le_refl 0
  | cons c t ih =>
    have positive := c.utf8Size_pos
    rw [List.length_cons, byteLength_cons]
    omega

theorem length_utf8 (t : Text) : t.utf8.length = t.byteLength := by
  induction t with
  | nil => rfl
  | cons c t ih => simp_all [utf8, byteLength_cons]

/-! ## Numerals -/

def ofNat (n : Nat) : Text :=
  Nat.toDigits 10 n

def ofInt : Int → Text
  | .ofNat n => ofNat n
  | .negSucc n => '-' :: ofNat (n + 1)

/-- The number that a row of decimal digits stands for, read on from `acc`. -/
def digitsFrom (acc : Nat) : Text → Nat
  | [] => acc
  | c :: rest => digitsFrom (10 * acc + (c.toNat - '0'.toNat)) rest

def digits? (t : Text) : Option Nat :=
  if t ≠ [] ∧ t.all Char.isDigit then some (digitsFrom 0 t) else none

def padLeft {α : Type} (fill : α) (width : Nat) (row : List α) : List α :=
  List.replicate (width - row.length) fill ++ row

def padRight {α : Type} (fill : α) (width : Nat) (row : List α) : List α :=
  row ++ List.replicate (width - row.length) fill

/-! ## White space -/

/-- Ranges of code points, each with its first and its last one. The tables of them stand in the
modules named for their properties. -/
abbrev Ranges := List (Nat × Nat)

def Ranges.contains (ranges : Ranges) (n : Nat) : Bool :=
  ranges.any fun range => range.1 ≤ n && n ≤ range.2

/-- White space beyond ASCII. -/
def wideBlanks : Ranges := [
    (0x85, 0x85), (0xA0, 0xA0), (0x1680, 0x1680), (0x2000, 0x200A), (0x2028, 0x2029),
    (0x202F, 0x202F), (0x205F, 0x205F), (0x3000, 0x3000)]

def isBlank (c : Char) : Bool :=
  c = ' ' || (0x09 ≤ c.toNat && c.toNat ≤ 0x0D) || (0x1C ≤ c.toNat && c.toNat ≤ 0x1F)
    || wideBlanks.contains c.toNat

def isLineBreak (c : Char) : Bool :=
  (0x0A ≤ c.toNat && c.toNat ≤ 0x0D) || (0x1C ≤ c.toNat && c.toNat ≤ 0x1E)
    || c.toNat = 0x85 || c.toNat = 0x2028 || c.toNat = 0x2029

/-- The lines of a text, each without the character that ends it. -/
def lines (t : Text) : List Text :=
  t.foldr (fun c lines => if isLineBreak c then [] :: lines else lines.modifyHead (c :: ·)) [[]]

def trimEnd (t : Text) : Text :=
  (t.reverse.dropWhile isBlank).reverse

/-! ## Order -/

/-- The order of texts by code point, which is also the order of their UTF-8 octets. -/
def precedes : Text → Text → Bool
  | [], _ => true
  | _ :: _, [] => false
  | a :: as, b :: bs => if a = b then precedes as bs else a.toNat < b.toNat

end Text
end SyncedFile
