import Mathlib.Data.List.DropRight
import SyncedFile.Proofs.Path.Names

/-!
# Paths below others

A path is at another or below it where it goes on from it. Steps from a directory may lead up as well
as down. In their normal form they first lead up and then down, so they stay below the directory
exactly if they come down again along the names that they have gone up past.

* `names_ofNames_zero` — the names of components that may hold slashes themselves;
* `IsAtOrBelow` — the place of a path below another, and `isAtOrBelow_ofNames` for paths along names;
* `climb`, `descent` — how far steps lead up in all, and along which names they lead down then;
* `collapse_eq_rdrop_append` — where steps from a directory lead;
* `StaysBelow`, `isAtOrBelow_normalize_iff` — steps that stay below the directory.
-/

namespace SyncedFile.Path

/-- A path is another path or goes on from it after a slash. -/
def IsAtOrBelow (place base : Text) : Prop :=
  place = base ∨ base ++ ['/'] <+: place

variable {slashCount : Nat} {base pieces more : List Text}

theorem names_append_sep (p q : Text) : names (p ++ '/' :: q) = names p ++ names q := by
  rw [names, Text.splitOn_append_sep, List.filter_append]
  rfl

theorem names_ofNames_zero (pieces : List Text) :
    names (ofNames 0 pieces) = pieces.flatMap names := by
  induction pieces with
  | nil => rfl
  | cons piece more ih =>
    cases more with
    | nil => rw [List.flatMap_singleton]; rfl
    | cons next rest =>
      have joined : ofNames 0 (piece :: next :: rest) = piece ++ '/' :: ofNames 0 (next :: rest) :=
        List.append_assoc piece ['/'] _
      rw [joined, names_append_sep, ih, ← List.flatMap_cons]

theorem ofNames_append_names (slashes : Nat) (nonempty : pieces ≠ []) (others : more ≠ []) :
    ofNames slashes (pieces ++ more) =
      ofNames slashes pieces ++ '/' :: Text.joinWith ['/'] more := by
  have joined : Text.joinWith ['/'] (pieces ++ more) =
      Text.joinWith ['/'] pieces ++ ['/'] ++ Text.joinWith ['/'] more := by
    rw [← List.dropLast_concat_getLast others, ← List.append_assoc,
      Text.joinWith_append_singleton, Text.joinWith_append_singleton,
      Text.joinWith_append_sep _ nonempty, List.flatMap_append, List.append_assoc]
  rw [ofNames, ofNames, joined]
  simp only [List.append_assoc, List.singleton_append]

/-- Among paths along names that start alike, those below one are those that go on from its
names. -/
theorem isAtOrBelow_ofNames (nonempty : pieces ≠ []) (plain : ArePieces pieces)
    (others : ArePieces more) :
    IsAtOrBelow (ofNames slashCount more) (ofNames slashCount pieces) ↔ pieces <+: more := by
  constructor
  · rintro (same | ⟨rest, eq⟩)
    · exact (ofNames_inj others plain).1 same ▸ List.prefix_rfl
    · rw [List.append_assoc, List.singleton_append] at eq
      have all := congrArg names eq
      rw [names_append_sep, names_ofNames slashCount plain, names_ofNames slashCount others] at all
      exact ⟨names rest, all⟩
  · -- A slash follows only where there is something to go on with.
    rintro ⟨rest, rfl⟩
    by_cases last : rest = []
    · rw [last, List.append_nil]
      exact .inl rfl
    · rw [ofNames_append_names slashCount nonempty last]
      exact .inr ⟨Text.joinWith ['/'] rest, List.append_assoc _ _ _⟩

/-! ## Steps up and down -/

/-- How many levels steps lead up, once those are left out that they come back from. -/
def climb (steps : List Text) : Nat :=
  (collapse false [] steps).count ['.', '.']

/-- The names that steps lead down along after that. -/
def descent (steps : List Text) : List Text :=
  (collapse false [] steps).filter (· ≠ ['.', '.'])

theorem collapse_above_of_cons {anchored : Bool} {last : Text} (named : last ≠ ['.', '.'])
    (kept steps : List Text) :
    collapse anchored (last :: kept) (['.', '.'] :: steps) = collapse anchored kept steps :=
  if_neg named

theorem collapse_above_of_climbed (up : Nat) (steps : List Text) :
    collapse false (List.replicate up ['.', '.']) (['.', '.'] :: steps) =
      collapse false (List.replicate (up + 1) ['.', '.']) steps := by
  cases up with
  | zero => rfl
  | succ up => rfl

/-- From a directory a step up takes off its last name, as far as it has any. -/
theorem collapse_above_of_named {kept : List Text} (named : ['.', '.'] ∉ kept)
    (steps : List Text) :
    collapse true kept (['.', '.'] :: steps) = collapse true kept.tail steps := by
  cases kept with
  | nil => rfl
  | cons last before =>
    exact collapse_above_of_cons (fun same => named (same ▸ List.mem_cons_self)) before steps

/-- Steps taken from nowhere and from a directory. What they have gone down along so far is kept by
both; a level up beyond that is kept by the first and takes a name off the directory. -/
theorem collapse_climbed (named : ['.', '.'] ∉ base) (steps : List Text) {down : List Text}
    (downNamed : ['.', '.'] ∉ down) (up : Nat) :
    ∃ up' down', ['.', '.'] ∉ down' ∧
      collapse false (down ++ List.replicate up ['.', '.']) steps =
        List.replicate up' ['.', '.'] ++ down' ∧
      collapse true (down ++ base.reverse.drop up) steps = base.rdrop up' ++ down' := by
  -- Both runs keep the names gone down along on top. Below these one of them keeps the steps up, and
  -- the other what these have left of the directory.
  induction steps generalizing down up with
  | nil =>
    refine ⟨up, down.reverse, mt List.mem_reverse.1 downNamed, ?_, ?_⟩
    · rw [collapse, List.reverse_append, List.reverse_replicate]
    · rw [collapse, List.reverse_append, List.rdrop_eq_reverse_drop_reverse]
  | cons step steps ih =>
    by_cases hidden : step = [] ∨ step = ['.']
    · rw [collapse_cons_of_hidden hidden, collapse_cons_of_hidden hidden]
      exact ih downNamed up
    · by_cases upwards : step = ['.', '.']
      · subst upwards
        cases down with
        | cons last before =>
          obtain ⟨ne, beforeNamed⟩ := not_or.1 (mt List.mem_cons.2 downNamed)
          rw [List.cons_append, List.cons_append, collapse_above_of_cons (Ne.symm ne),
            collapse_above_of_cons (Ne.symm ne)]
          exact ih beforeNamed up
        | nil =>
          -- One level more is climbed, and the directory loses a name, if it has any left.
          have baseNamed : ['.', '.'] ∉ base.reverse.drop up := fun mem =>
            named (List.mem_reverse.1 (List.mem_of_mem_drop mem))
          rw [List.nil_append, List.nil_append, collapse_above_of_climbed,
            collapse_above_of_named baseNamed, List.tail_drop]
          exact ih List.not_mem_nil (up + 1)
      · rw [collapse_cons_of_name hidden upwards, collapse_cons_of_name hidden upwards,
          ← List.cons_append, ← List.cons_append]
        exact ih (List.not_mem_cons_of_ne_of_not_mem (Ne.symm upwards) downNamed) up

/-- Steps from a directory take off as many of its last names as they lead up, and go on from there
along the names that they lead down. -/
theorem collapse_eq_rdrop_append (named : ['.', '.'] ∉ base) (steps : List Text) :
    collapse true base.reverse steps = base.rdrop (climb steps) ++ descent steps := by
  obtain ⟨up, down, downNamed, relative, absolute⟩ :=
    collapse_climbed named steps List.not_mem_nil 0
  rw [List.replicate_zero, List.append_nil] at relative
  have climbs : climb steps = up := by
    rw [climb, relative, List.count_append, List.count_replicate_self,
      List.count_eq_zero.2 downNamed, Nat.add_zero]
  have descends : descent steps = down := by
    have taken : (List.replicate up ['.', '.']).filter (· ≠ ['.', '.']) = [] :=
      List.filter_eq_nil_iff.2 fun name mem => by simp [List.eq_of_mem_replicate mem]
    have kept : down.filter (· ≠ ['.', '.']) = down :=
      List.filter_eq_self.2 fun name mem => decide_eq_true fun same => downNamed (same ▸ mem)
    rw [descent, relative, List.filter_append, taken, kept, List.nil_append]
  rw [climbs, descends]
  exact absolute

/-- Steps from a directory stay at it or below it, all in all: they come down again along the names
that they have gone up past. -/
def StaysBelow (base steps : List Text) : Prop :=
  base.rtake (climb steps) <+: descent steps

instance (base steps : List Text) : Decidable (StaysBelow base steps) :=
  inferInstanceAs (Decidable (_ <+: _))

theorem prefix_collapse_iff (named : ['.', '.'] ∉ base) (steps : List Text) :
    base <+: collapse true base.reverse steps ↔ StaysBelow base steps := by
  have whole : base.rdrop (climb steps) ++ base.rtake (climb steps) = base :=
    List.take_append_drop _ _
  calc base <+: collapse true base.reverse steps
    _ ↔ base.rdrop (climb steps) ++ base.rtake (climb steps) <+:
        base.rdrop (climb steps) ++ descent steps := by rw [whole, collapse_eq_rdrop_append named]
    _ ↔ StaysBelow base steps := List.prefix_append_right_inj _

theorem isAtOrBelow_normalize_iff (one_or_two : slashCount = 1 ∨ slashCount = 2)
    (nonempty : base ≠ []) (named : ∀ name ∈ base, IsName name) {steps : List Text}
    (plain : ArePieces steps) :
    IsAtOrBelow (normalize (ofNames slashCount (base ++ steps))) (ofNames slashCount base) ↔
      StaysBelow base steps := by
  have pieces : ArePieces (base ++ steps) :=
    List.forall_mem_append.2 ⟨arePieces_of_isName named, plain⟩
  have names : ∀ name ∈ collapse true base.reverse steps, IsName name :=
    isName_of_mem_collapse (fun name mem => named name (List.mem_reverse.1 mem)) fun piece mem =>
      (plain piece mem).2
  rw [normalize_ofNames_of_pieces one_or_two pieces, collapse_append_of_isName named,
    List.append_nil, isAtOrBelow_ofNames nonempty (arePieces_of_isName named)
      (arePieces_of_isName names), prefix_collapse_iff fun mem => (named _ mem).ne_above rfl]

-- Steps may leave the directory as long as they come back to it.
example : StaysBelow ["data", "user"] ["a", "..", "..", "user", "b"] := by decide

theorem staysBelow_of_isName (names : ∀ name ∈ pieces, IsName name) : StaysBelow base pieces := by
  have climbs : climb pieces = 0 := by
    rw [climb, collapse_of_isName names]
    exact List.count_eq_zero.2 fun mem => (names _ mem).ne_above rfl
  rw [StaysBelow, climbs, List.rtake_zero]
  exact List.nil_prefix

end SyncedFile.Path
