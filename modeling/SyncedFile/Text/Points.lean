import SyncedFile.Text.Hex

/-!
# Code points

Where a text comes from outside, or is put together from numbers, halves of surrogate pairs may
stand alone in it. Then it has no UTF-8 form, and a half before its other half is not told from the
character of both once they are written one after the other.

* `Point`, `Points` — a character or a half, and a row of them;
* `Points.text?` — the text of a row without halves;
* `Points.joined` — the row with one character for each two halves of a pair;
* `Points.escaped` — the text that is printed where halves cannot be.

Main statements: `text?_eq_some_iff`, `joined_eq_self_iff`.
-/

namespace SyncedFile

/-- A character, or half of a surrogate pair by its place among the halves. -/
inductive Point where
  | char (c : Char)
  | half (n : Fin 0x800)
  deriving DecidableEq

abbrev Points := List Point

namespace Point

/-- The number of the first half. -/
def halves : Nat := 0xD800

/-- The first half of a pair has one of the lower places. -/
def leads (n : Fin 0x800) : Bool :=
  n.val < 0x400

def isHalf : Point → Bool
  | char _ => false
  | half _ => true

/-- The code point of a number, which is below `0x110000`. -/
def ofNat (n : Nat) : Point :=
  if h : halves ≤ n ∧ n - halves < 0x800 then half ⟨n - halves, h.2⟩ else char (Char.ofNat n)

def pair (first second : Fin 0x800) : Char :=
  Char.ofNat (0x10000 + first.val * 0x400 + (second.val - 0x400))

end Point

def Text.points (t : Text) : Points :=
  t.map .char

instance : Coe Text Points := ⟨Text.points⟩

namespace Points

def text? : Points → Option Text
  | [] => some []
  | .char c :: rest => (text? rest).map (c :: ·)
  | .half _ :: _ => none

def joined : Points → Points
  | [] => []
  | .char c :: rest => .char c :: joined rest
  | [.half first] => [.half first]
  | .half first :: .char c :: rest => .half first :: .char c :: joined rest
  | .half first :: .half second :: rest =>
    if Point.leads first && !Point.leads second then .char (Point.pair first second) :: joined rest
    else .half first :: joined (.half second :: rest)

def escaped (points : Points) : Text :=
  points.flatMap fun
    | .char c => [c]
    | .half n => "\\u" ++ Text.Hex.ofNat 4 (Point.halves + n)

/-- Where the first halves stand, and those that stand there next to each other. -/
def firstHalves (points : Points) : Nat × Points :=
  let before := points.takeWhile (!·.isHalf)
  (before.length, (points.drop before.length).takeWhile Point.isHalf)

def HasPair (points : Points) : Prop :=
  ∃ first second, Point.leads first = true ∧ Point.leads second = false ∧
    [.half first, .half second] <:+: points

variable {points rest : Points} {t : Text}

@[simp] theorem points_nil : Text.points [] = [] := rfl

@[simp] theorem points_cons (c : Char) (t : Text) :
    Text.points (c :: t) = .char c :: Text.points t := rfl

theorem text?_eq_some_iff : points.text? = some t ↔ points = t.points := by
  induction points generalizing t with
  | nil => cases t <;> simp [text?]
  | cons point rest ih =>
    cases point with
    | half n => cases t <;> simp [text?]
    | char c =>
      cases t with
      | nil => simp [text?]
      | cons d t =>
        rw [text?, Option.map_eq_some_iff, points_cons, List.cons.injEq]
        constructor
        · rintro ⟨more, read, same⟩
          obtain ⟨rfl, rfl⟩ := List.cons.inj same
          exact ⟨rfl, ih.1 read⟩
        · rintro ⟨same, others⟩
          obtain rfl := Point.char.inj same
          exact ⟨t, ih.2 others, rfl⟩

@[simp] theorem text?_points (t : Text) : text? t.points = some t :=
  text?_eq_some_iff.2 rfl

theorem points_injective : Function.Injective Text.points := by
  intro t u same
  have read := text?_points t
  rw [same, text?_points] at read
  exact (Option.some.inj read).symm

@[simp] theorem joined_points (t : Text) : joined t.points = t.points := by
  induction t with
  | nil => rfl
  | cons c t ih => exact congrArg (.char c :: ·) ih

theorem not_hasPair_nil : ¬HasPair [] := by
  simp [HasPair]

theorem hasPair_cons {point : Point} : HasPair (point :: rest) ↔
    (∃ first second more, point = .half first ∧ rest = .half second :: more ∧
      Point.leads first = true ∧ Point.leads second = false) ∨ HasPair rest := by
  simp only [HasPair, List.infix_cons_iff]
  constructor
  · rintro ⟨first, second, leads, follows, starts | inside⟩
    · obtain ⟨more, same⟩ := starts
      obtain ⟨rfl, rfl⟩ := List.cons.inj same.symm
      exact .inl ⟨first, second, more, rfl, rfl, leads, follows⟩
    · exact .inr ⟨first, second, leads, follows, inside⟩
  · rintro (⟨first, second, more, rfl, rfl, leads, follows⟩ | ⟨first, second, leads, follows, inside⟩)
    · exact ⟨first, second, leads, follows, .inl ⟨more, rfl⟩⟩
    · exact ⟨first, second, leads, follows, .inr inside⟩

theorem joined_eq_self_iff : joined points = points ↔ ¬HasPair points := by
  fun_induction joined points with
  | case1 => simp [not_hasPair_nil]
  | case2 c rest ih => simp [hasPair_cons, ih]
  | case3 first => simp [hasPair_cons, not_hasPair_nil]
  | case4 first c rest ih => simp [hasPair_cons, ih]
  | case5 first second rest both ih =>
    simp only [Bool.and_eq_true, Bool.not_eq_true'] at both
    have pair : HasPair (.half first :: .half second :: rest) :=
      hasPair_cons.2 (.inl ⟨first, second, rest, rfl, rfl, both⟩)
    simp [pair]
  | case6 first second rest apart ih =>
    rw [hasPair_cons, List.cons.injEq, ih]
    simp only [Bool.and_eq_true, Bool.not_eq_true'] at apart
    simp [apart]

end Points
end SyncedFile
