import SyncedFile.Path.Lexical
import SyncedFile.Proofs.Text.Pieces

/-!
# Paths by their names

An absolute path in normal form is given by the number of slashes that it starts with and by the
names that it leads along.

* `IsName`, `ofNames` — a component that leads one level down, and the path along names;
* `names_ofNames`, `ofNames_inj` — the names of such a path;
* `join_ofNames`, `joinAll_ofNames` — going further down;
* `absolute_eq_ofNames` — the normal form under a working directory.
-/

namespace SyncedFile.Path

/-- A component that leads one level down. -/
structure IsName (name : Text) : Prop where
  ne_nil : name ≠ []
  notMem_slash : '/' ∉ name
  ne_here : name ≠ ['.']
  ne_above : name ≠ ['.', '.']

/-- The absolute path along names, starting with so many slashes. -/
def ofNames (slashes : Nat) (names : List Text) : Text :=
  List.replicate slashes '/' ++ Text.joinWith ['/'] names

def names (p : Text) : List Text :=
  (Text.splitOn '/' p).filter (· ≠ [])

/-- Components that are not empty and hold no slash. -/
def ArePieces (pieces : List Text) : Prop :=
  ∀ piece ∈ pieces, piece ≠ [] ∧ '/' ∉ piece

variable {slashCount : Nat} {pieces more : List Text} {name : Text}

theorem arePieces_of_isName (names : ∀ name ∈ pieces, IsName name) : ArePieces pieces :=
  fun name mem => ⟨(names name mem).ne_nil, (names name mem).notMem_slash⟩

theorem ne_zero_of_one_or_two (one_or_two : slashCount = 1 ∨ slashCount = 2) : slashCount ≠ 0 := by
  omega

/-! ## The names of a path -/

theorem splitOn_ofNames (slashes : Nat) (plain : ArePieces pieces) :
    Text.splitOn '/' (ofNames slashes pieces) =
      List.replicate slashes [] ++ if pieces = [] then [[]] else pieces := by
  rw [ofNames, Text.splitOn_replicate_append]
  split
  · next empty =>
    rw [empty]
    rfl
  · next nonempty =>
    rw [Text.splitOn_joinWith nonempty fun piece mem => (plain piece mem).2]

theorem names_ofNames (slashes : Nat) (plain : ArePieces pieces) :
    names (ofNames slashes pieces) = pieces := by
  have kept : pieces.filter (· ≠ []) = pieces :=
    List.filter_eq_self.2 fun piece mem => decide_eq_true (plain piece mem).1
  have dropped : (List.replicate slashes ([] : Text)).filter (· ≠ []) = [] :=
    List.filter_eq_nil_iff.2 fun piece mem => by simp [List.eq_of_mem_replicate mem]
  rw [names, splitOn_ofNames slashes plain, List.filter_append, dropped, List.nil_append]
  split
  · next empty =>
    rw [empty]
    rfl
  · exact kept

theorem arePieces_names (p : Text) : ArePieces (names p) := by
  intro piece mem
  obtain ⟨split, filled⟩ := List.mem_filter.1 mem
  exact ⟨of_decide_eq_true filled, Text.notMem_of_mem_splitOn split⟩

theorem ofNames_inj (left : ArePieces pieces) (right : ArePieces more) :
    ofNames slashCount pieces = ofNames slashCount more ↔ pieces = more := by
  constructor
  · intro same
    rw [← names_ofNames slashCount left, same, names_ofNames slashCount right]
  · exact congrArg (ofNames slashCount)

theorem head?_joinWith (plain : ArePieces pieces) {c : Char}
    (head : (Text.joinWith ['/'] pieces).head? = some c) : c ≠ '/' := by
  cases pieces with
  | nil => cases head
  | cons piece more =>
    obtain ⟨nonempty, noSlash⟩ := plain piece List.mem_cons_self
    obtain ⟨first, rest, rfl⟩ := List.exists_cons_of_ne_nil nonempty
    have same : first = c := by
      cases more <;> exact Option.some.inj head
    rintro rfl
    exact noSlash (same ▸ List.mem_cons_self)

theorem slashes_ofNames (one_or_two : slashCount = 1 ∨ slashCount = 2) (plain : ArePieces pieces) :
    slashes (ofNames slashCount pieces) = slashCount := by
  cases joined : Text.joinWith ['/'] pieces with
  | nil => rcases one_or_two with rfl | rfl <;> simp [ofNames, joined, slashes]
  | cons c rest =>
    have other : c ≠ '/' := head?_joinWith plain (by rw [joined]; rfl)
    rcases one_or_two with rfl | rfl <;> simp [ofNames, joined, slashes, other]

/-! ## Going down -/

theorem getLast?_ofNames (slashes : Nat) (nonempty : pieces ≠ []) (plain : ArePieces pieces) :
    (ofNames slashes pieces).getLast? ≠ some '/' := by
  intro last
  have final := plain _ (List.getLast_mem nonempty)
  rw [ofNames, ← List.dropLast_concat_getLast nonempty, Text.joinWith_append_singleton,
    ← List.append_assoc] at last
  exact final.1 (Text.eq_nil_of_getLast? last final.2)

theorem isAbsolute_eq_false (plain : '/' ∉ name) : isAbsolute name = false := by
  cases name with
  | nil => rfl
  | cons c rest =>
    simp only [List.mem_cons, not_or] at plain
    simp [isAbsolute, Ne.symm plain.1]

theorem ofNames_append_singleton (slashes : Nat) (nonempty : pieces ≠ []) (name : Text) :
    ofNames slashes (pieces ++ [name]) = ofNames slashes pieces ++ '/' :: name := by
  rw [ofNames, ofNames, Text.joinWith_append_singleton, ← Text.joinWith_append_sep _ nonempty]
  simp only [List.append_assoc, List.singleton_append]

theorem join_eq_append (nonempty : pieces ≠ []) (plain : ArePieces pieces) (noSlash : '/' ∉ name) :
    join (ofNames slashCount pieces) name = ofNames slashCount pieces ++ '/' :: name := by
  have last := getLast?_ofNames slashCount nonempty plain
  have filled : ofNames slashCount pieces ≠ [] := by
    intro empty
    have found := names_ofNames slashCount plain
    rw [empty] at found
    exact nonempty found.symm
  rw [join, isAbsolute_eq_false noSlash, if_neg Bool.false_ne_true, if_neg]
  simp [last, filled]

theorem join_ofNames (positive : slashCount ≠ 0) (plain : ArePieces pieces)
    (piece : name ≠ [] ∧ '/' ∉ name) :
    join (ofNames slashCount pieces) name = ofNames slashCount (pieces ++ [name]) := by
  by_cases empty : pieces = []
  · -- The path is nothing but slashes, so that none is put before the name.
    subst empty
    have last : (ofNames slashCount []).getLast? = some '/' := by
      simp [ofNames, Text.joinWith, List.getLast?_replicate, positive]
    rw [join, isAbsolute_eq_false piece.2, if_neg Bool.false_ne_true, last, beq_self_eq_true,
      Bool.or_true, if_pos rfl]
    simp [ofNames, Text.joinWith]
  · rw [join_eq_append empty plain piece.2, ofNames_append_singleton slashCount empty]

theorem joinAll_ofNames (positive : slashCount ≠ 0) (plain : ArePieces pieces)
    (below : ArePieces more) :
    joinAll (ofNames slashCount pieces) more = ofNames slashCount (pieces ++ more) := by
  induction more generalizing pieces with
  | nil => rw [List.append_nil]; rfl
  | cons name more ih =>
    obtain ⟨first, rest⟩ := List.forall_mem_cons.1 below
    have next : ArePieces (pieces ++ [name]) :=
      List.forall_mem_append.2 ⟨plain, List.forall_mem_singleton.2 first⟩
    rw [joinAll, List.foldl_cons, join_ofNames positive plain first]
    exact (ih next rest).trans (by rw [List.append_assoc, List.singleton_append])

/-! ## Normal forms -/

/-- Where a path starts at the top, what is kept of it are names. -/
theorem isName_of_mem_collapse {kept : List Text} (names : ∀ name ∈ kept, IsName name)
    (plain : ∀ piece ∈ pieces, '/' ∉ piece) :
    ∀ name ∈ collapse true kept pieces, IsName name := by
  induction pieces generalizing kept with
  | nil => exact fun name mem => names name (List.mem_reverse.1 mem)
  | cons piece rest ih =>
    obtain ⟨first, others⟩ := List.forall_mem_cons.1 plain
    unfold collapse
    split
    · exact ih names others
    · next visible =>
      split
      · split
        · exact ih names others
        · next last before =>
          obtain ⟨top, below⟩ := List.forall_mem_cons.1 names
          rw [if_neg top.ne_above]
          exact ih below others
      · next notAbove =>
        rw [not_or] at visible
        exact ih (List.forall_mem_cons.2 ⟨⟨visible.1, first, visible.2, notAbove⟩, names⟩) others

theorem collapse_cons_of_hidden {anchored : Bool} {kept : List Text}
    (hidden : name = [] ∨ name = ['.']) (rest : List Text) :
    collapse anchored kept (name :: rest) = collapse anchored kept rest :=
  if_pos hidden

theorem collapse_cons_of_name {anchored : Bool} {kept : List Text}
    (visible : ¬(name = [] ∨ name = ['.'])) (notAbove : name ≠ ['.', '.']) (rest : List Text) :
    collapse anchored kept (name :: rest) = collapse anchored (name :: kept) rest :=
  (if_neg visible).trans (if_neg notAbove)

theorem collapse_append_of_isName {anchored : Bool} {kept : List Text}
    (names : ∀ name ∈ pieces, IsName name) (rest : List Text) :
    collapse anchored kept (pieces ++ rest) = collapse anchored (pieces.reverse ++ kept) rest := by
  induction pieces generalizing kept with
  | nil => rfl
  | cons piece more ih =>
    obtain ⟨first, others⟩ := List.forall_mem_cons.1 names
    rw [List.cons_append, collapse_cons_of_name (not_or.2 ⟨first.ne_nil, first.ne_here⟩)
      first.ne_above, ih others, List.reverse_cons, List.append_assoc, List.singleton_append]

theorem collapse_of_isName {anchored : Bool} {kept : List Text}
    (names : ∀ name ∈ pieces, IsName name) :
    collapse anchored kept pieces = kept.reverse ++ pieces := by
  calc collapse anchored kept pieces
    _ = collapse anchored kept (pieces ++ []) := by rw [List.append_nil]
    _ = (pieces.reverse ++ kept).reverse := collapse_append_of_isName names []
    _ = kept.reverse ++ pieces := by rw [List.reverse_append, List.reverse_reverse]

theorem collapse_replicate_nil (anchored : Bool) (kept : List Text) (n : Nat) (rest : List Text) :
    collapse anchored kept (List.replicate n [] ++ rest) = collapse anchored kept rest := by
  induction n with
  | zero => rfl
  | succ n ih => exact (collapse_cons_of_hidden (.inl rfl) _).trans ih

theorem slashes_of_isAbsolute {p : Text} (absolute : isAbsolute p = true) :
    slashes p = 1 ∨ slashes p = 2 := by
  unfold slashes
  split
  · exact .inl rfl
  · exact .inr rfl
  · exact .inl rfl
  · next other =>
    obtain ⟨rest, rfl⟩ := List.head?_eq_some_iff.1 (beq_iff_eq.1 absolute)
    exact absurd rfl (other rest)

theorem normalize_eq_ofNames {p : Text} (absolute : isAbsolute p = true) :
    (slashes p = 1 ∨ slashes p = 2) ∧ (∀ name ∈ components p, IsName name) ∧
      normalize p = ofNames (slashes p) (components p) := by
  have leading := slashes_of_isAbsolute absolute
  refine ⟨leading, ?_, ?_⟩
  · have anchored : (slashes p != 0) = true := by
      rcases leading with one | two <;> simp [*]
    rw [components, anchored]
    exact isName_of_mem_collapse (List.forall_mem_nil _) fun piece mem =>
      Text.notMem_of_mem_splitOn mem
  · have nonempty : (List.replicate (slashes p) '/' ++ Text.joinWith ['/'] (components p)).isEmpty
        = false := by
      rcases leading with one | two <;> simp [*]
    rw [normalize]
    simp only [nonempty, Bool.false_eq_true, if_false]
    rfl

theorem components_ofNames (one_or_two : slashCount = 1 ∨ slashCount = 2)
    (plain : ArePieces pieces) : components (ofNames slashCount pieces) = collapse true [] pieces := by
  have anchored : (slashCount != 0) = true := by
    rcases one_or_two with rfl | rfl <;> rfl
  rw [components, slashes_ofNames one_or_two plain, anchored, splitOn_ofNames slashCount plain,
    collapse_replicate_nil]
  split
  · next empty =>
    rw [empty]
    rfl
  · rfl

theorem normalize_ofNames_of_pieces (one_or_two : slashCount = 1 ∨ slashCount = 2)
    (plain : ArePieces pieces) :
    normalize (ofNames slashCount pieces) = ofNames slashCount (collapse true [] pieces) := by
  have absolute : isAbsolute (ofNames slashCount pieces) = true := by
    rcases one_or_two with rfl | rfl <;> rfl
  rw [(normalize_eq_ofNames absolute).2.2, components_ofNames one_or_two plain,
    slashes_ofNames one_or_two plain]

theorem normalize_ofNames (one_or_two : slashCount = 1 ∨ slashCount = 2)
    (names : ∀ name ∈ pieces, IsName name) :
    normalize (ofNames slashCount pieces) = ofNames slashCount pieces := by
  rw [normalize_ofNames_of_pieces one_or_two (arePieces_of_isName names), collapse_of_isName names]
  rfl

theorem absolute_eq_ofNames {working : Text} (top : isAbsolute working = true) (p : Text) :
    ∃ slashes pieces, (slashes = 1 ∨ slashes = 2) ∧ (∀ name ∈ pieces, IsName name) ∧
      absolute working p = ofNames slashes pieces := by
  have absolute : isAbsolute (if isAbsolute p then p else join working p) = true := by
    split
    · assumption
    · next relative =>
      obtain ⟨rest, rfl⟩ := List.head?_eq_some_iff.1 (beq_iff_eq.1 top)
      rw [join, if_neg relative]
      split <;> rfl
  obtain ⟨leading, names, normal⟩ := normalize_eq_ofNames absolute
  exact ⟨_, _, leading, names, normal⟩

end SyncedFile.Path
