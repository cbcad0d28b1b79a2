import SyncedFile.Text.Basic

/-!
# Texts cut at separators

What cutting a text at a separator gives, stated so that later proofs need not open the recursion:
each way of cutting has one lemma that cuts a text put together of known pieces, and one that says
which pieces a cut has come from.

* `splitOn_joinWith` — pieces without the separator are found again;
* `cut_cases`, `cutLast_cases` — the two outcomes of a cut at one separator;
* `spanUntil_append` — where a span ends.
-/

namespace SyncedFile.Text

/-- What is asked of each character of a text is decided along the text, never over all characters
that there are. -/
instance (priority := 1100) decidableForallMem {p : Char → Prop} [DecidablePred p] (t : Text) :
    Decidable (∀ c ∈ t, p c) :=
  List.decidableBAll p t

/-! ## All separators -/

theorem splitOn_of_notMem {sep : Char} {t : Text} (absent : sep ∉ t) : splitOn sep t = [t] := by
  induction t with
  | nil => rfl
  | cons c rest ih =>
    simp only [List.mem_cons, not_or] at absent
    rw [splitOn, if_neg (Ne.symm absent.1), ih absent.2]
    rfl

theorem splitOn_append_cons {sep : Char} {t : Text} (absent : sep ∉ t) (rest : Text) :
    splitOn sep (t ++ sep :: rest) = t :: splitOn sep rest := by
  induction t with
  | nil => simp [splitOn]
  | cons c t ih =>
    simp only [List.mem_cons, not_or] at absent
    rw [List.cons_append, splitOn, if_neg (Ne.symm absent.1), ih absent.2]
    rfl

/-- The pieces on both sides of a separator, one after the other. -/
theorem splitOn_append_sep (sep : Char) (t u : Text) :
    splitOn sep (t ++ sep :: u) = splitOn sep t ++ splitOn sep u := by
  induction t with
  | nil => simp [splitOn]
  | cons c t ih =>
    rw [List.cons_append, splitOn, splitOn, ih]
    split
    · rfl
    · obtain ⟨first, more, eq⟩ := List.exists_cons_of_ne_nil (splitOn_ne_nil sep t)
      rw [eq]
      rfl

theorem splitOn_replicate_append (sep : Char) (n : Nat) (t : Text) :
    splitOn sep (List.replicate n sep ++ t) = List.replicate n [] ++ splitOn sep t := by
  induction n with
  | zero => rfl
  | succ n ih =>
    rw [List.replicate_succ, List.cons_append, splitOn, if_pos rfl, ih]
    rfl

theorem splitOn_joinWith {sep : Char} {pieces : List Text} (nonempty : pieces ≠ [])
    (absent : ∀ piece ∈ pieces, sep ∉ piece) : splitOn sep (joinWith [sep] pieces) = pieces := by
  induction pieces with
  | nil => exact absurd rfl nonempty
  | cons piece more ih =>
    have first : sep ∉ piece := absent piece List.mem_cons_self
    cases more with
    | nil => exact splitOn_of_notMem first
    | cons next more =>
      have others := ih (List.cons_ne_nil _ _) fun p mem => absent p (List.mem_cons_of_mem _ mem)
      rw [joinWith, List.append_assoc, List.singleton_append, splitOn_append_cons first, others]

theorem notMem_of_mem_splitOn {sep : Char} {t piece : Text} (mem : piece ∈ splitOn sep t) :
    sep ∉ piece := by
  induction t generalizing piece with
  | nil => simp_all [splitOn]
  | cons c rest ih =>
    rw [splitOn] at mem
    by_cases h : c = sep
    · rw [if_pos h, List.mem_cons] at mem
      rcases mem with rfl | mem
      · exact List.not_mem_nil
      · exact ih mem
    · rw [if_neg h] at mem
      cases pieces : splitOn sep rest with
      | nil => exact absurd pieces (splitOn_ne_nil sep rest)
      | cons first more =>
        rw [pieces, List.modifyHead_cons, List.mem_cons] at mem
        rcases mem with rfl | mem
        · have absent : sep ∉ first := ih (pieces ▸ List.mem_cons_self)
          simp [absent, Ne.symm h]
        · exact ih (pieces ▸ List.mem_cons_of_mem _ mem)

theorem joinWith_append_singleton (sep : Text) (pieces : List Text) (last : Text) :
    joinWith sep (pieces ++ [last]) = pieces.flatMap (· ++ sep) ++ last := by
  induction pieces with
  | nil => rfl
  | cons piece more ih =>
    obtain ⟨next, others, eq⟩ := List.exists_cons_of_ne_nil (List.concat_ne_nil last more)
    rw [List.cons_append, eq, joinWith, ← eq, ih, List.flatMap_cons]
    simp only [List.append_assoc]

theorem joinWith_append_sep (sep : Text) {pieces : List Text} (nonempty : pieces ≠ []) :
    joinWith sep pieces ++ sep = pieces.flatMap (· ++ sep) := by
  rw [← List.dropLast_concat_getLast nonempty, joinWith_append_singleton, List.flatMap_append,
    List.flatMap_singleton, List.append_assoc]

theorem mem_joinWith {sep : Text} {pieces : List Text} {c : Char} (mem : c ∈ joinWith sep pieces) :
    c ∈ sep ∨ ∃ piece ∈ pieces, c ∈ piece := by
  induction pieces with
  | nil => exact absurd mem List.not_mem_nil
  | cons piece more ih =>
    cases more with
    | nil => exact .inr ⟨piece, List.mem_cons_self, mem⟩
    | cons next more =>
      simp only [joinWith, List.mem_append] at mem
      rcases mem with (mem | mem) | mem
      · exact .inr ⟨piece, List.mem_cons_self, mem⟩
      · exact .inl mem
      · rcases ih mem with inSep | ⟨p, hp, hc⟩
        · exact .inl inSep
        · exact .inr ⟨p, List.mem_cons_of_mem _ hp, hc⟩

theorem mem_joinWith_of_mem {sep : Text} {pieces : List Text} {piece : Text} {c : Char}
    (hp : piece ∈ pieces) (hc : c ∈ piece) : c ∈ joinWith sep pieces := by
  induction pieces with
  | nil => exact absurd hp List.not_mem_nil
  | cons first more ih =>
    cases more with
    | nil => rw [List.mem_singleton.1 hp] at hc; exact hc
    | cons next more =>
      simp only [joinWith, List.mem_append]
      rcases List.mem_cons.1 hp with rfl | hp
      · exact .inl (.inl hc)
      · exact .inr (ih hp)

theorem mem_of_mem_splitOn {sep : Char} {t piece : Text} {c : Char} (hp : piece ∈ splitOn sep t)
    (hc : c ∈ piece) : c ∈ t := by
  rw [← joinWith_splitOn sep t]
  exact mem_joinWith_of_mem hp hc

/-! ## The first separator -/

theorem cut_of_notMem {sep : Char} {t : Text} (absent : sep ∉ t) : cut sep t = (t, none) := by
  induction t with
  | nil => rfl
  | cons c rest ih =>
    simp only [List.mem_cons, not_or] at absent
    rw [cut, if_neg (Ne.symm absent.1), ih absent.2]

theorem cut_append_cons {sep : Char} {t : Text} (absent : sep ∉ t) (rest : Text) :
    cut sep (t ++ sep :: rest) = (t, some rest) := by
  induction t with
  | nil => simp [cut]
  | cons c t ih =>
    simp only [List.mem_cons, not_or] at absent
    rw [List.cons_append, cut, if_neg (Ne.symm absent.1), ih absent.2]

theorem cut_append {sep : Char} {t : Text} (absent : sep ∉ t) (rest : Text) :
    cut sep (t ++ rest) = (t ++ (cut sep rest).1, (cut sep rest).2) := by
  induction t with
  | nil => rfl
  | cons c t ih =>
    simp only [List.mem_cons, not_or] at absent
    rw [List.cons_append, cut, if_neg (Ne.symm absent.1), ih absent.2]
    rfl

theorem cut_cases (sep : Char) (t : Text) :
    (sep ∉ t ∧ cut sep t = (t, none)) ∨
      ∃ before rest, t = before ++ sep :: rest ∧ sep ∉ before ∧ cut sep t = (before, some rest) := by
  by_cases mem : sep ∈ t
  · obtain ⟨before, rest, rfl, absent⟩ := List.eq_append_cons_of_mem mem
    exact .inr ⟨before, rest, rfl, absent, cut_append_cons absent rest⟩
  · exact .inl ⟨mem, cut_of_notMem mem⟩

theorem exists_append_cut (sep : Char) (t : Text) :
    ∃ tail, t = (cut sep t).1 ++ tail ∧
      ∀ other, sep ∉ other → cut sep (other ++ tail) = (other, (cut sep t).2) := by
  rcases cut_cases sep t with ⟨-, eq⟩ | ⟨before, rest, rfl, -, eq⟩
  · refine ⟨[], ?_, fun other absent => ?_⟩ <;> rw [eq, List.append_nil]
    exact cut_of_notMem absent
  · refine ⟨sep :: rest, ?_, fun other absent => ?_⟩ <;> rw [eq]
    exact cut_append_cons absent rest

theorem eq_nil_iff_cut (sep : Char) (t : Text) :
    t = [] ↔ (cut sep t).1 = [] ∧ (cut sep t).2 = none := by
  rcases cut_cases sep t with ⟨-, eq⟩ | ⟨before, rest, rfl, -, eq⟩ <;> rw [eq] <;> simp

theorem mem_of_mem_cut_fst {sep c : Char} {t : Text} (mem : c ∈ (cut sep t).1) : c ∈ t := by
  rcases cut_cases sep t with ⟨-, eq⟩ | ⟨before, rest, rfl, -, eq⟩
  · rwa [eq] at mem
  · rw [eq] at mem
    exact List.mem_append_left _ mem

theorem notMem_cut_fst (sep : Char) (t : Text) : sep ∉ (cut sep t).1 := by
  rcases cut_cases sep t with ⟨absent, eq⟩ | ⟨before, rest, rfl, absent, eq⟩ <;> rwa [eq]

theorem mem_of_mem_cut_snd {sep c : Char} {t : Text} (mem : c ∈ (cut sep t).2.getD []) : c ∈ t := by
  rcases cut_cases sep t with ⟨-, eq⟩ | ⟨before, rest, rfl, -, eq⟩
  · rw [eq] at mem
    exact absurd mem List.not_mem_nil
  · rw [eq] at mem
    exact List.mem_append_right _ (List.mem_cons_of_mem _ mem)

def marked (mark : Char) (t : Text) : Text :=
  if t = [] then [] else mark :: t

/-- A mark separates the text after it from the text before it. -/
theorem cut_append_marked {mark : Char} {t : Text} (absent : mark ∉ t) (u : Text) :
    (cut mark (t ++ marked mark u)).1 = t ∧
      (cut mark (t ++ marked mark u)).2.getD [] = u := by
  rw [marked]
  split
  · next empty =>
    rw [List.append_nil, cut_of_notMem absent, empty]
    exact ⟨rfl, rfl⟩
  · rw [cut_append_cons absent]
    exact ⟨rfl, rfl⟩

theorem mem_marked {mark c : Char} {t : Text} (mem : c ∈ marked mark t) : c = mark ∨ c ∈ t := by
  rw [marked] at mem
  split at mem
  · exact absurd mem List.not_mem_nil
  · exact List.mem_cons.1 mem

/-! ## The last separator -/

theorem cutLast_of_notMem {sep : Char} {t : Text} (absent : sep ∉ t) :
    cutLast sep t = (none, t) := by
  induction t with
  | nil => rfl
  | cons c rest ih =>
    simp only [List.mem_cons, not_or] at absent
    rw [cutLast, ih absent.2]
    exact if_neg (Ne.symm absent.1)

theorem cutLast_append_cons {sep : Char} (t : Text) {rest : Text} (absent : sep ∉ rest) :
    cutLast sep (t ++ sep :: rest) = (some t, rest) := by
  induction t with
  | nil =>
    rw [List.nil_append, cutLast, cutLast_of_notMem absent]
    exact if_pos rfl
  | cons c t ih => rw [List.cons_append, cutLast, ih]

theorem cutLast_cases (sep : Char) (t : Text) :
    (sep ∉ t ∧ cutLast sep t = (none, t)) ∨
      ∃ before rest, t = before ++ sep :: rest ∧ sep ∉ rest ∧
        cutLast sep t = (some before, rest) := by
  by_cases mem : sep ∈ t
  · obtain ⟨rest, before, eq, absent⟩ := List.eq_append_cons_of_mem (List.mem_reverse.2 mem)
    have whole : t = before.reverse ++ sep :: rest.reverse := by
      rw [← List.reverse_reverse t, eq]
      simp
    have absentRest : sep ∉ rest.reverse := fun h => absent (List.mem_reverse.1 h)
    exact .inr ⟨_, _, whole, absentRest, whole ▸ cutLast_append_cons _ absentRest⟩
  · exact .inl ⟨mem, cutLast_of_notMem mem⟩

theorem exists_append_cutLast (sep : Char) (t : Text) :
    ∃ lead, t = lead ++ (cutLast sep t).2 ∧
      ∀ other, sep ∉ other → cutLast sep (lead ++ other) = ((cutLast sep t).1, other) := by
  rcases cutLast_cases sep t with ⟨-, eq⟩ | ⟨before, rest, rfl, -, eq⟩
  · exact ⟨[], by rw [eq]; rfl, fun other absent => by rw [eq]; exact cutLast_of_notMem absent⟩
  · refine ⟨before ++ [sep], ?_, fun other absent => ?_⟩ <;> rw [eq, List.append_assoc]
    · rfl
    · exact cutLast_append_cons before absent

/-! ## Spans and final characters -/

/-- A span takes a text without the characters it looks for and stops at the first of them. -/
theorem spanUntil_append {seps : List Char} {t rest : Text} (absent : ∀ c ∈ t, c ∉ seps)
    (stops : ∀ c ∈ rest.head?, c ∈ seps) : spanUntil seps (t ++ rest) = (t, rest) := by
  have taken : ∀ c ∈ t, decide (c ∉ seps) = true := fun c mem => decide_eq_true (absent c mem)
  have stopped : rest.takeWhile (· ∉ seps) = [] ∧ rest.dropWhile (· ∉ seps) = rest := by
    cases rest with
    | nil => exact ⟨rfl, rfl⟩
    | cons c rest =>
      have mem : c ∈ seps := stops c rfl
      simp [mem]
  rw [spanUntil, List.takeWhile_append_of_pos taken, List.dropWhile_append_of_pos taken,
    stopped.1, stopped.2, List.append_nil]

theorem head_spanUntil (seps : List Char) (t : Text) :
    ∀ c ∈ (spanUntil seps t).2.head?, c ∈ seps := by
  intro c first
  have stopped := List.head?_dropWhile_not (fun c => decide (c ∉ seps)) t
  rw [Option.mem_def, spanUntil] at first
  simpa only [first, decide_eq_false_iff_not, Decidable.not_not] using stopped

theorem notMem_of_mem_spanUntil {seps : List Char} {t : Text} {c : Char}
    (mem : c ∈ (spanUntil seps t).1) : c ∉ seps :=
  of_decide_eq_true (List.all_eq_true.1 List.all_takeWhile c mem)

theorem append_spanUntil (seps : List Char) (t : Text) :
    (spanUntil seps t).1 ++ (spanUntil seps t).2 = t :=
  List.takeWhile_append_dropWhile

theorem dropFinal_append_singleton (c : Char) (t : Text) : dropFinal c (t ++ [c]) = t := by
  simp [dropFinal]

theorem dropFinal_map {f : Char → Char} {c : Char} (kept : ∀ d, f d = c ↔ d = c) (t : Text) :
    dropFinal c (t.map f) = (dropFinal c t).map f := by
  have last : (t.map f).getLast? = some c ↔ t.getLast? = some c := by
    rw [List.getLast?_map, Option.map_eq_some_iff]
    simp only [kept, exists_eq_right]
  rw [dropFinal, dropFinal]
  simp only [last]
  split
  · exact List.map_dropLast.symm
  · rfl

theorem dropFinal_of_notMem {c : Char} {t : Text} (absent : c ∉ t) : dropFinal c t = t := by
  rw [dropFinal, if_neg]
  intro last
  exact absent (List.mem_of_getLast? last)

theorem dropFinal_append {c : Char} {t : Text} (absent : c ∉ t) (u : Text) :
    dropFinal c (t ++ u) = t ++ dropFinal c u := by
  cases u with
  | nil => rw [dropFinal_of_notMem (List.not_mem_nil), List.append_nil, dropFinal_of_notMem absent]
  | cons d u =>
    have nonempty := List.cons_ne_nil d u
    rw [dropFinal, dropFinal, List.getLast?_append, List.getLast?_eq_some_getLast nonempty,
      Option.some_or, List.dropLast_append_of_ne_nil nonempty]
    split
    · rfl
    · rfl

theorem dropFinal_cases (c : Char) (t : Text) : t = dropFinal c t ++ [c] ∨ dropFinal c t = t := by
  by_cases last : t.getLast? = some c
  · obtain ⟨body, rfl⟩ := List.getLast?_eq_some_iff.1 last
    exact .inl (by rw [dropFinal_append_singleton])
  · exact .inr (if_neg last)

theorem mem_of_mem_dropFinal {c d : Char} {t : Text} (mem : d ∈ dropFinal c t) : d ∈ t := by
  rcases dropFinal_cases c t with whole | whole
  · rw [whole]
    exact List.mem_append_left _ mem
  · rwa [whole] at mem

theorem append_dropFinal {c : Char} {t : Text} (last : t.getLast? = some c) :
    dropFinal c t ++ [c] = t := by
  obtain ⟨body, rfl⟩ := List.getLast?_eq_some_iff.1 last
  rw [dropFinal_append_singleton]

theorem dropFinal_eq_self_iff {c : Char} {t : Text} : dropFinal c t = t ↔ t.getLast? ≠ some c := by
  constructor
  · intro same last
    have longer := append_dropFinal last
    rw [same] at longer
    exact absurd (List.append_right_eq_self.1 longer) (List.cons_ne_nil _ _)
  · exact fun other => if_neg other

/-- Where a character ends a text, the last part of it either holds that character or is empty. -/
theorem eq_nil_of_getLast? {c : Char} {t u : Text} (last : (t ++ u).getLast? = some c)
    (absent : c ∉ u) : u = [] := by
  cases final : u.getLast? with
  | none => exact List.getLast?_eq_none_iff.1 final
  | some d =>
    rw [List.getLast?_append, final, Option.some_or, Option.some.injEq] at last
    exact absurd (last ▸ List.mem_of_getLast? final) absent

end SyncedFile.Text
