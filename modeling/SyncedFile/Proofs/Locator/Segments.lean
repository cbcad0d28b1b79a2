import SyncedFile.Proofs.Locator.Parts
import SyncedFile.Proofs.Text.LowerCase

/-!
# Segments that are recognised

Two checks go by the grammar of segments: that of an identity, and that of a path, which takes its
segments from the left. They recognise the same texts, except that a path may hold the placeholder.
What is reported of a path is its first segment that is not recognised.

* `IsWord`, `isSegment_iff`, `Identity.exists_check_iff` — the texts that can be an identity;
* `checkAll_append`, `check_of_refused` — one step of the check, and the steps before it;
* `Recognised`, `Verdict`, `verdict_checkAll` — what a path comes to.
-/

namespace SyncedFile

namespace Segment

/-! ## The grammar -/

/-- The characters of segments: ASCII letters and digits, and three marks. -/
def IsAllowed (c : Char) : Prop :=
  ('A' ≤ c ∧ c ≤ 'Z') ∨ ('a' ≤ c ∧ c ≤ 'z') ∨ ('0' ≤ c ∧ c ≤ '9') ∨ c = '_' ∨ c = '-' ∨ c = '.'

/-- One or more of these characters, and then at most one line break. -/
def IsWord (t : Text) : Prop :=
  ∃ word : Text, word ≠ [] ∧ (∀ c ∈ word, IsAllowed c) ∧ (t = word ∨ t = word ++ ['\n'])

theorem isSegmentChar_iff (c : Char) : isSegmentChar c = true ↔ IsAllowed c := by
  simp only [isSegmentChar, IsAllowed, Bool.or_eq_true, beq_iff_eq, Text.isAlphanum_iff, or_assoc]

theorem isSegment_iff (t : Text) : isSegment t = true ↔ IsWord t := by
  simp only [isSegment, Bool.and_eq_true, Bool.not_eq_true', List.isEmpty_eq_false_iff,
    List.all_eq_true, isSegmentChar_iff]
  constructor
  · rintro ⟨nonempty, allowed⟩
    refine ⟨Text.dropFinal '\n' t, nonempty, allowed, ?_⟩
    rcases Text.dropFinal_cases '\n' t with broken | whole
    · exact .inr broken
    · exact .inl whole.symm
  · rintro ⟨word, nonempty, allowed, whole | broken⟩
    · -- A word holds no line break, so nothing is left off at its end.
      have noBreak : '\n' ∉ word := by
        intro mem
        have bad := (isSegmentChar_iff '\n').2 (allowed _ mem)
        exact absurd bad (by decide)
      rw [whole, Text.dropFinal_of_notMem noBreak]
      exact ⟨nonempty, allowed⟩
    · rw [broken, Text.dropFinal_append_singleton]
      exact ⟨nonempty, allowed⟩

end Segment

theorem Identity.exists_check_iff (t : Text) :
    (∃ identity, check (.text t) = .ok identity) ↔
      t ≠ ['~'] ∧ t ≠ ['.'] ∧ t ≠ ['.', '.'] ∧ Segment.IsWord t := by
  have valid : (∃ identity, check (.text t) = .ok identity) ↔ Segment.isIdentity t = true := by
    by_cases given : Segment.isIdentity t = true
    · simp [check, ofValue?, given]
    · simp [check, ofValue?, given]
  rw [valid, Segment.isIdentity, Bool.and_eq_true, Bool.and_eq_true, bne_iff_ne,
    Bool.not_eq_true', Segment.isRelative_eq_false_iff, Segment.isSegment_iff, and_assoc, and_assoc]
  rfl

namespace Segment

variable {raw : Value}

/-! ## Paths -/

/-- The segment is the placeholder or can be an identity. -/
def Recognised (segment : Text) : Prop :=
  segment = ['~'] ∨ ∃ identity, Identity.check (.text segment) = .ok identity

theorem check_eq_ok_iff_recognised {segment : Text} :
    check raw segment = .ok () ↔ Recognised segment := by
  rw [check_eq_ok_iff, Recognised, Identity.exists_check_iff, isRelative_eq_false_iff,
    isSegment_iff, placeholder]
  by_cases same : segment = ['~']
  · simp [same]
  · simp [same, and_assoc]

/-- What is reported of a segment that is not recognised. Both reports name it. -/
def refusal (raw : Value) (segment : Text) : Report :=
  if segment = ['.'] ∨ segment = ['.', '.'] then .invalidSegment (.text segment) raw
  else .invalidCharacter (.text segment) raw

theorem check_of_refused (raw : Value) {segment : Text} (bad : ¬Recognised segment) :
    ∃ failure, check raw segment = .error failure ∧ failure.report = refusal raw segment := by
  have refused : check raw segment ≠ .ok () := mt check_eq_ok_iff_recognised.1 bad
  rw [check] at refused ⊢
  by_cases same : segment = placeholder
  · exact absurd (if_pos same) refused
  · rw [if_neg same] at refused ⊢
    by_cases relative : isRelative segment = true
    · rw [if_pos relative]
      exact ⟨_, rfl, (if_pos (isRelative_iff.1 relative)).symm⟩
    · rw [if_neg relative] at refused ⊢
      by_cases word : isSegment segment = true
      · exact absurd (if_pos word) refused
      · rw [if_neg word]
        exact ⟨_, rfl, (if_neg (mt isRelative_iff.2 relative)).symm⟩

/-- Segments that pass leave the outcome to those after them. -/
theorem checkAll_append {before : List Text}
    (passed : ∀ segment ∈ before, check raw segment = .ok ()) (rest : List Text) :
    checkAll raw (before ++ rest) = checkAll raw rest := by
  induction before with
  | nil => rfl
  | cons segment before ih =>
    rw [List.forall_mem_cons] at passed
    rw [List.cons_append, checkAll, passed.1]
    exact ih passed.2

/-- Where not all segments are recognised, there is a first one that is not. -/
theorem exists_first_refused {segments : List Text}
    (refused : ¬∀ segment ∈ segments, Recognised segment) :
    ∃ before segment after, segments = before ++ segment :: after ∧
      (∀ other ∈ before, Recognised other) ∧ ¬Recognised segment := by
  induction segments with
  | nil => exact absurd (fun _ mem => absurd mem List.not_mem_nil) refused
  | cons segment rest ih =>
    by_cases first : Recognised segment
    · rw [List.forall_mem_cons, not_and] at refused
      obtain ⟨before, found, after, rfl, passed, bad⟩ := ih (refused first)
      exact ⟨segment :: before, found, after, rfl, List.forall_mem_cons.2 ⟨first, passed⟩, bad⟩
    · exact ⟨[], segment, rest, rfl, fun _ mem => absurd mem List.not_mem_nil, first⟩

/-- What checking the segments of a path comes to. -/
structure Verdict (raw : Value) (segments : List Text) : Prop where
  accepted : checkAll raw segments = .ok () ↔ ∀ segment ∈ segments, Recognised segment
  /-- The first segment that is not recognised is the one that is reported. -/
  refused : (¬∀ segment ∈ segments, Recognised segment) →
    ∃ before segment after failure, segments = before ++ segment :: after ∧
      (∀ other ∈ before, Recognised other) ∧ ¬Recognised segment ∧
      checkAll raw segments = .error failure ∧ failure.report = refusal raw segment

/-- A path passes its check if its segments are placeholders or can be identities, and otherwise the
first other segment is reported. A text can be an identity if it is a word of the grammar and
neither the placeholder nor a relative reference. -/
theorem verdict_checkAll (raw : Value) (segments : List Text) :
    Verdict raw segments ∧
      ∀ t : Text, (∃ identity, Identity.check (.text t) = .ok identity) ↔
        t ≠ ['~'] ∧ t ≠ ['.'] ∧ t ≠ ['.', '.'] ∧ IsWord t := by
  refine ⟨⟨?_, ?_⟩, Identity.exists_check_iff⟩
  · rw [checkAll_eq_ok_iff]
    simp only [check_eq_ok_iff_recognised]
  · intro someRefused
    obtain ⟨before, segment, after, rfl, passed, bad⟩ := exists_first_refused someRefused
    obtain ⟨failure, checked, report⟩ := check_of_refused raw bad
    refine ⟨before, segment, after, failure, rfl, passed, bad, ?_, report⟩
    rw [checkAll_append fun other mem => check_eq_ok_iff_recognised.2 (passed other mem), checkAll,
      checked]

/-- A line break at the end passes, and of two bad segments the first one is reported. -/
example : checkAll (.text "/~/a\n/../a$") ["~", "a\n", "..", "a$"] =
    .error (.relativeSegment ".." (.text "/~/a\n/../a$")) := rfl

end Segment
end SyncedFile
