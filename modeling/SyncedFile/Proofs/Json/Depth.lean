import SyncedFile.Json.OfValue
import SyncedFile.Value.Literal

/-!
# How deeply values may be nested

Where there is room for as many rows and dictionaries in each other as a value has, it is written as
it would be without any limit. Lists can be nested more deeply than any room reaches.

Main statements: `ofValueWithin_of_nesting_le`, `ofValueWithin_nested`.
-/

namespace SyncedFile

/-- An empty list inside so many others. -/
def Value.nested : Nat → Value
  | 0 => .list []
  | n + 1 => .list [nested n]

namespace Json

@[simp] theorem inside_none : inside none = .ok none := rfl

theorem inside_some {depth room : Nat} (le : depth + 1 ≤ room) :
    ∃ left, inside (some room) = .ok (some left) ∧ depth ≤ left := by
  obtain ⟨left, rfl⟩ := Nat.exists_eq_add_of_le' (Nat.le_of_add_left_le le)
  exact ⟨left, rfl, Nat.le_of_succ_le_succ le⟩

mutual

theorem ofValueWithin_of_nesting_le : ∀ (v : Value) {room : Nat}, v.nesting 0 ≤ room →
    ofValueWithin (some room) v = ofValue v
  | .null, _, _ | .bool _, _, _ | .int _, _, _ | .float _, _, _ | .text _, _, _
  | .octets _ _, _, _ | .path _, _, _ | .callable _ _, _, _ | .object _, _, _ => rfl
  | .list items, room, le => by
    obtain ⟨left, enters, le⟩ := inside_some le
    simp only [ofValue, ofValueWithin, enters, inside_none, bind, Except.bind]
    rw [ofValuesWithin_of_nestingIn_le items le]
  | .tuple items, room, le => by
    obtain ⟨left, enters, le⟩ := inside_some le
    simp only [ofValue, ofValueWithin, enters, inside_none, bind, Except.bind]
    rw [ofValuesWithin_of_nestingIn_le items le]
  | .dict entries, room, le => by
    obtain ⟨left, enters, le⟩ := inside_some le
    simp only [ofValue, ofValueWithin, enters, inside_none, bind, Except.bind]
    rw [ofEntriesWithin_of_nestingOf_le entries le]

theorem ofValuesWithin_of_nestingIn_le : ∀ (items : List Value) {room : Nat},
    Value.nestingIn 0 items ≤ room → ofValuesWithin (some room) items = ofValuesWithin none items
  | [], _, _ => rfl
  | v :: rest, room, le => by
    obtain ⟨first, others⟩ := Nat.max_le.1 le
    rw [ofValuesWithin, ofValuesWithin, ofValueWithin_of_nesting_le v first, ofValue,
      ofValuesWithin_of_nestingIn_le rest others]

theorem ofEntriesWithin_of_nestingOf_le : ∀ (entries : List (Value × Value)) {room : Nat},
    Value.nestingOf 0 entries ≤ room →
      ofEntriesWithin (some room) entries = ofEntriesWithin none entries
  | [], _, _ => rfl
  | (k, v) :: rest, room, le => by
    obtain ⟨both, others⟩ := Nat.max_le.1 le
    rw [ofEntriesWithin, ofEntriesWithin, ofValueWithin_of_nesting_le v (Nat.max_le.1 both).2,
      ofValue, ofEntriesWithin_of_nestingOf_le rest others]

end

theorem keyOf_ne_tooDeep (k : Value) : keyOf k ≠ .error .tooDeep := by
  cases k <;> simp [keyOf]

theorem bind_ne_error {α β ε : Type} {x : Except ε α} {f : α → Except ε β} {e : ε}
    (first : x ≠ .error e) (next : ∀ a, f a ≠ .error e) : (x >>= f) ≠ .error e := by
  cases x with
  | ok a => exact next a
  | error other => exact fun same => first (congrArg _ (Except.error.inj same))

mutual

theorem ofValue_ne_tooDeep : ∀ v : Value, ofValueWithin none v ≠ .error .tooDeep
  | .null | .bool _ | .int _ | .float _ | .text _ => nofun
  | .octets _ _ | .path _ | .callable _ _ | .object _ => nofun
  | .list items | .tuple items =>
    bind_ne_error (x := ofValuesWithin none items) (ofValuesWithin_ne_tooDeep items) nofun
  | .dict entries =>
    bind_ne_error (x := ofEntriesWithin none entries) (ofEntriesWithin_ne_tooDeep entries) nofun

theorem ofValuesWithin_ne_tooDeep : ∀ items : List Value,
    ofValuesWithin none items ≠ .error .tooDeep
  | [] => nofun
  | v :: rest =>
    bind_ne_error (ofValue_ne_tooDeep v) fun _ =>
      bind_ne_error (ofValuesWithin_ne_tooDeep rest) nofun

theorem ofEntriesWithin_ne_tooDeep : ∀ entries : List (Value × Value),
    ofEntriesWithin none entries ≠ .error .tooDeep
  | [] => nofun
  | (k, v) :: rest =>
    bind_ne_error (keyOf_ne_tooDeep k) fun _ => bind_ne_error (ofValue_ne_tooDeep v) fun _ =>
      bind_ne_error (ofEntriesWithin_ne_tooDeep rest) nofun

end

section

variable {room : Option Nat} {v : Value} {depth : Nat}

theorem ofValueWithin_of_fits (fits : ∀ n ∈ room, v.nesting 0 ≤ n) :
    ofValueWithin room v = ofValue v := by
  cases room with
  | none => rfl
  | some n => exact ofValueWithin_of_nesting_le v (fits n rfl)

theorem exists_inside (some_le : ∀ n ∈ room, depth < n) :
    ∃ left, inside room = .ok left ∧
      ∀ depth, (∀ n ∈ room, depth < n) → ∀ n ∈ left, depth ≤ n := by
  cases room with
  | none => exact ⟨none, rfl, nofun⟩
  | some n =>
    obtain ⟨left, rfl⟩ := Nat.exists_eq_add_of_le' (Nat.zero_lt_of_lt (some_le n rfl))
    refine ⟨some left, rfl, fun depth fits n mem => ?_⟩
    obtain rfl := Option.some.inj mem
    exact Nat.le_of_lt_succ (fits _ rfl)

end

end Json
end SyncedFile
