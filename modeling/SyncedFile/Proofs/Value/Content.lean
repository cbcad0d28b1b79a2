import Mathlib.Data.Int.Cast.Basic
import Mathlib.Data.List.Nodup
import Mathlib.Data.List.Perm.Basic
import SyncedFile.Value.Equality

/-!
# Sets of values

Values that can stand in a set have a content, and they compare equal exactly if their contents are
the same. A set therefore depends only on the values that it is made from, neither on their order
nor on how often each of them is given.

* `Content`, `Value.content?` — what equal values have in common;
* `Value.equals_self` — every value equals itself;
* `Value.equals_iff_content` — equality is sameness of content;
* `Value.IsSetOf`, `Value.isSetOf_distinct` — the elements of a set;
* `Value.sameElements_distinct` — sets made from the same values.
-/

namespace SyncedFile

/-- What makes values equal that can stand in a set. -/
inductive Content where
  | null
  | number (q : Rat)
  | infinite (negative : Bool)
  | nan (mark : Nat)
  | text (t : Text)
  | octets (bytes : List UInt8)
  | path (t : Text)
  | callable (name : Text) (falsy : Bool)
  | object (name : Text)
  | tuple (items : List Content)

/-! ## Numbers -/

namespace Binary64

def content : Binary64 → Content
  | nan mark => .nan mark
  | infinite negative => .infinite negative
  | finite negative significand exponent =>
    .number (mkRat (signedNumerator negative significand exponent) (denominator exponent))

theorem denominator_ne_zero (exponent : Int) : denominator exponent ≠ 0 := by
  simp [denominator, Nat.shiftLeft_eq]

theorem isInt_iff (x : Binary64) (i : Int) : x.isInt i = true ↔ x.content = .number i := by
  cases x with
  | nan => simp [isInt, content]
  | infinite => simp [isInt, content]
  | finite negative significand exponent =>
    rw [isInt, content, Content.number.injEq, ← Rat.mkRat_one,
      Rat.mkRat_eq_iff (denominator_ne_zero exponent) Nat.one_ne_zero, beq_iff_eq]
    simp

theorem equals_iff (x y : Binary64) : x.equals y = true ↔ x.content = y.content := by
  cases x <;> cases y <;> simp [equals, content, Rat.mkRat_eq_iff, denominator_ne_zero]

end Binary64

namespace Value

/-! ## Every value equals itself -/

mutual

theorem equals_self (v : Value) : v.equals v = true := by
  cases v with
  | list items => exact equalsAll_self items
  | tuple items => exact equalsAll_self items
  | dict entries =>
    simp only [equals, beq_self_eq_true, Bool.true_and]
    exact entriesIn_of_subset entries fun _ mem => mem
  | float x => exact (Binary64.equals_iff x x).2 rfl
  | _ => simp [equals, equalsAtom, whole?]

theorem equalsAll_self (vs : List Value) : equalsAll vs vs = true := by
  cases vs with
  | nil => rfl
  | cons v rest => simp only [equalsAll, equals_self v, equalsAll_self rest, Bool.and_self]

theorem entriesIn_of_subset {ys : List (Value × Value)} (xs : List (Value × Value))
    (subset : xs ⊆ ys) : entriesIn xs ys = true := by
  match xs with
  | [] => rfl
  | (k, v) :: rest =>
    obtain ⟨first, others⟩ := List.cons_subset.1 subset
    rw [entriesIn, entriesIn_of_subset rest others, Bool.and_true, List.any_eq_true]
    exact ⟨(k, v), first, by simp only [equals_self k, equals_self v, Bool.and_self]⟩

end

/-! ## Contents -/

mutual

/-- The content of a value, if the value can stand in a set. -/
def content? : Value → Option Content
  | null => some .null
  | bool b => some (.number (if b then 1 else 0 : Int))
  | int i => some (.number i)
  | float x => some x.content
  | text t => some (.text t)
  | octets kind bytes => if kind = .editable then none else some (.octets bytes)
  | list _ => none
  | tuple items => (contents? items).map .tuple
  | dict _ => none
  | path t => some (.path t)
  | callable name falsy => some (.callable name falsy)
  | object name => some (.object name)

def contents? : List Value → Option (List Content)
  | [] => some []
  | v :: rest => (content? v).bind fun c => (contents? rest).map (c :: ·)

end

theorem isSome_contents?_cons (v : Value) (vs : List Value) :
    (contents? (v :: vs)).isSome = true ↔
      v.content?.isSome = true ∧ (contents? vs).isSome = true := by
  rw [contents?]
  cases v.content? <;> cases contents? vs <;> simp

theorem contents?_cons_ne_nil (v : Value) (vs : List Value) : contents? (v :: vs) ≠ some [] := by
  rw [contents?]
  cases v.content? <;> cases contents? vs <;> simp

mutual

/-- The values that have a content are those that can stand in a set. -/
theorem isSome_content?_iff (v : Value) : v.content?.isSome = true ↔ v.unhashable? = none := by
  cases v with
  | tuple items =>
    rw [content?, Option.isSome_map, unhashable?]
    exact isSome_contents?_iff items
  | octets kind bytes => cases kind <;> simp [content?, unhashable?]
  | _ => simp [content?, unhashable?]

theorem isSome_contents?_iff (vs : List Value) :
    (contents? vs).isSome = true ↔ unhashableIn? vs = none := by
  match vs with
  | [] => simp [contents?, unhashableIn?]
  | v :: rest =>
    rw [isSome_contents?_cons, isSome_content?_iff v, isSome_contents?_iff rest, unhashableIn?,
      Option.or_eq_none_iff]

end

/-! ## Equality by content -/

/-- Rows that start with values of some content have the same contents if they start and go on
alike. -/
theorem contents?_cons_inj {v w : Value} {vs ws : List Value}
    (left : (contents? (v :: vs)).isSome = true) (right : (contents? (w :: ws)).isSome = true) :
    contents? (v :: vs) = contents? (w :: ws) ↔
      v.content? = w.content? ∧ contents? vs = contents? ws := by
  obtain ⟨first, others⟩ := (isSome_contents?_cons v vs).1 left
  obtain ⟨next, nexts⟩ := (isSome_contents?_cons w ws).1 right
  obtain ⟨c, first⟩ := Option.isSome_iff_exists.1 first
  obtain ⟨cs, others⟩ := Option.isSome_iff_exists.1 others
  obtain ⟨d, next⟩ := Option.isSome_iff_exists.1 next
  obtain ⟨ds, nexts⟩ := Option.isSome_iff_exists.1 nexts
  simp [contents?, first, others, next, nexts]

theorem equalsAtom_iff_content {v w : Value} (left : v.content?.isSome = true)
    (right : w.content?.isSome = true)
    (mixed : ∀ items others, v = .tuple items → w ≠ .tuple others) :
    v.equalsAtom w = true ↔ v.content? = w.content? := by
  -- With a tuple on the right the `some` comes first, so the equation has to be turned around.
  have swap (c : Content) (o : Option (List Content)) :
      some c = o.map .tuple ↔ o.map .tuple = some c := eq_comm
  cases v with
  | list => cases left
  | dict => cases left
  | float x =>
    cases w with
    | list => cases right
    | dict => cases right
    | float y => simp [equalsAtom, content?, Binary64.equals_iff]
    | _ =>
      cases x <;> simp_all [equalsAtom, content?, whole?, Binary64.isInt_iff, Binary64.content]
  | _ =>
    cases w with
    | list => cases right
    | dict => cases right
    | float x =>
      -- Here the integer stands before the number that it is compared with.
      cases x <;>
        simp_all [equalsAtom, content?, whole?, Binary64.isInt_iff, Binary64.content, @eq_comm Rat]
    | _ => simp_all [equalsAtom, content?, whole?, -Int.cast_ite]

mutual

theorem equals_iff (v w : Value) (left : v.content?.isSome = true)
    (right : w.content?.isSome = true) : v.equals w = true ↔ v.content? = w.content? := by
  unfold equals
  split
  · cases left
  · next items others =>
    rw [content?, Option.isSome_map] at left right
    rw [equalsAll_iff items others left right, content?, content?,
      Option.map_inj_right fun _ _ => Content.tuple.inj]
  · cases left
  · next tuples _ => exact equalsAtom_iff_content left right tuples

theorem equalsAll_iff (vs ws : List Value) (left : (contents? vs).isSome = true)
    (right : (contents? ws).isSome = true) :
    equalsAll vs ws = true ↔ contents? vs = contents? ws := by
  match vs, ws with
  | [], [] => simp [equalsAll]
  | [], w :: ws => exact iff_of_false Bool.false_ne_true (contents?_cons_ne_nil w ws).symm
  | v :: vs, [] => exact iff_of_false Bool.false_ne_true (contents?_cons_ne_nil v vs)
  | v :: vs, w :: ws =>
    obtain ⟨first, others⟩ := (isSome_contents?_cons v vs).1 left
    obtain ⟨next, nexts⟩ := (isSome_contents?_cons w ws).1 right
    rw [contents?_cons_inj left right, equalsAll, Bool.and_eq_true, equals_iff v w first next,
      equalsAll_iff vs ws others nexts]

end

/-- Values that can stand in a set are equal exactly if their contents are the same. -/
theorem equals_iff_content {v w : Value} (left : v.unhashable? = none)
    (right : w.unhashable? = none) : v.equals w = true ↔ v.content? = w.content? :=
  equals_iff v w ((isSome_content?_iff v).2 left) ((isSome_content?_iff w).2 right)

/-! ## Sets -/

/-- The first values of each class, after some that are kept already. -/
def distinctAfter (kept vs : List Value) : List Value :=
  vs.foldl (fun kept v => if kept.any (equals · v) then kept else kept ++ [v]) kept

theorem distinctAfter_cons (kept : List Value) (v : Value) (vs : List Value) :
    distinctAfter kept (v :: vs) =
      distinctAfter (if kept.any (equals · v) then kept else kept ++ [v]) vs := rfl

theorem mem_of_mem_distinctAfter {kept vs : List Value} {m : Value}
    (mem : m ∈ distinctAfter kept vs) : m ∈ kept ∨ m ∈ vs := by
  induction vs generalizing kept with
  | nil => exact .inl mem
  | cons v vs ih =>
    rw [distinctAfter_cons] at mem
    obtain before | after := ih mem
    · split at before
      · exact .inl before
      · simp only [List.mem_append, List.mem_singleton] at before
        obtain before | rfl := before
        · exact .inl before
        · exact .inr List.mem_cons_self
    · exact .inr (List.mem_cons_of_mem v after)

theorem subset_distinctAfter (kept vs : List Value) : kept ⊆ distinctAfter kept vs := by
  induction vs generalizing kept with
  | nil => exact List.Subset.refl kept
  | cons v vs ih =>
    rw [distinctAfter_cons]
    split
    · exact ih kept
    · exact fun m mem => ih _ (List.subset_append_left kept [v] mem)

theorem exists_mem_distinctAfter (kept : List Value) {vs : List Value} {m : Value} (mem : m ∈ vs) :
    ∃ v ∈ distinctAfter kept vs, v.equals m = true := by
  induction vs generalizing kept with
  | nil => cases mem
  | cons v vs ih =>
    rw [distinctAfter_cons]
    cases mem with
    | tail _ later => exact ih _ later
    | head =>
      -- Either an equal value is kept already or the value itself is from now on.
      split
      · next found =>
        obtain ⟨v, before, same⟩ := List.any_eq_true.1 found
        exact ⟨v, subset_distinctAfter _ _ before, same⟩
      · exact ⟨m, subset_distinctAfter _ _ (by simp), equals_self m⟩

theorem pairwise_distinctAfter {kept : List Value}
    (apart : kept.Pairwise fun v w => v.equals w = false) (vs : List Value) :
    (distinctAfter kept vs).Pairwise fun v w => v.equals w = false := by
  induction vs generalizing kept with
  | nil => exact apart
  | cons v vs ih =>
    rw [distinctAfter_cons]
    split
    · exact ih apart
    · next new =>
      refine ih (List.pairwise_append.2 ⟨apart, List.pairwise_singleton _ _, ?_⟩)
      simpa using new

theorem mem_of_mem_distinct {vs : List Value} {m : Value} (mem : m ∈ distinct vs) : m ∈ vs :=
  (mem_of_mem_distinctAfter mem).resolve_left List.not_mem_nil

theorem exists_mem_distinct {vs : List Value} {m : Value} (mem : m ∈ vs) :
    ∃ v ∈ distinct vs, v.equals m = true :=
  exists_mem_distinctAfter [] mem

theorem pairwise_distinct (vs : List Value) :
    (distinct vs).Pairwise fun v w => v.equals w = false :=
  pairwise_distinctAfter .nil vs

/-- A row holds the elements of a set that is made from some values: each of them as far as equality
goes, and no two equal ones. -/
structure IsSetOf (set vs : List Value) : Prop where
  subset : ∀ v ∈ set, v ∈ vs
  covers : ∀ m ∈ vs, ∃ v ∈ set, v.equals m = true
  apart : set.Pairwise fun v w => v.equals w = false

theorem isSetOf_distinct (vs : List Value) : IsSetOf (distinct vs) vs where
  subset _ := mem_of_mem_distinct
  covers _ := exists_mem_distinct
  apart := pairwise_distinct vs

/-- The contents of a set are those of the values that it is made from, each once. -/
theorem contents_distinct {vs : List Value} (hashable : ∀ v ∈ vs, v.unhashable? = none) :
    ((distinct vs).map content?).Nodup ∧
      ∀ c, c ∈ (distinct vs).map content? ↔ c ∈ vs.map content? := by
  constructor
  · refine List.pairwise_map.2 ((pairwise_distinct vs).imp_of_mem ?_)
    intro v w left right apart same
    have equal := (equals_iff_content (hashable v (mem_of_mem_distinct left))
      (hashable w (mem_of_mem_distinct right))).2 same
    rw [equal] at apart
    cases apart
  · intro c
    simp only [List.mem_map]
    constructor
    · rintro ⟨v, mem, rfl⟩
      exact ⟨v, mem_of_mem_distinct mem, rfl⟩
    · rintro ⟨m, mem, rfl⟩
      obtain ⟨v, kept, same⟩ := exists_mem_distinct mem
      exact ⟨v, kept,
        (equals_iff_content (hashable v (mem_of_mem_distinct kept)) (hashable m mem)).1 same⟩

theorem sameElements_self (vs : List Value) : sameElements vs vs = true := by
  rw [sameElements, beq_self_eq_true, Bool.true_and, List.all_eq_true]
  exact fun v mem => List.any_eq_true.2 ⟨v, mem, equals_self v⟩

theorem sameElements_distinct {xs ys : List Value} (hashable : ∀ v ∈ xs, v.unhashable? = none)
    (same : ∀ v, v ∈ xs ↔ v ∈ ys) : sameElements (distinct xs) (distinct ys) = true := by
  have othersHashable : ∀ v ∈ ys, v.unhashable? = none := fun v mem => hashable v ((same v).2 mem)
  obtain ⟨leftOnce, leftContents⟩ := contents_distinct hashable
  obtain ⟨rightOnce, rightContents⟩ := contents_distinct othersHashable
  have contents : ∀ c, c ∈ xs.map content? ↔ c ∈ ys.map content? := by
    simp only [List.mem_map, same, implies_true]
  -- Every content stands once in both sets, so these differ in the order of the contents at most.
  have perm := (List.perm_ext_iff_of_nodup leftOnce rightOnce).2 fun c =>
    (leftContents c).trans ((contents c).trans (rightContents c).symm)
  rw [sameElements, Bool.and_eq_true, beq_iff_eq, List.all_eq_true]
  constructor
  · simpa using perm.length_eq
  · intro v mem
    have given := mem_of_mem_distinct mem
    obtain ⟨w, kept, equal⟩ := List.mem_map.1 (perm.subset (List.mem_map_of_mem mem))
    have other := othersHashable w (mem_of_mem_distinct kept)
    exact List.any_eq_true.2 ⟨w, kept, (equals_iff_content (hashable v given) other).2 equal.symm⟩

end Value
end SyncedFile
