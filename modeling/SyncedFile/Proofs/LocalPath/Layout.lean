import SyncedFile.Proofs.LocalPath.FirstFit
import SyncedFile.Proofs.Locator.Resolved
import SyncedFile.Proofs.Path.Names

/-!
# The layout of local paths

A local path leads along the names of the root, the identity, the levels that the path on the server
gives, and the file name. Which levels and which file name these are depends on the strategy only.

* `levels`, `Strategy.levels` — the names below the identity;
* `choose_eq_ok`, `byteLength_le_of_choose` — a plan is given by its strategy, and fits;
* `fullPath_eq_ofNames` — the names that a plan leads along.
-/

namespace SyncedFile

theorem LocalPath.sanitize_eq_self {name : Text} (allowed : ∀ c ∈ name, c ∉ forbidden) :
    sanitize name = name := by
  have kept : ∀ c ∈ name, sanitizeChar c = c := fun c mem => if_neg (allowed c mem)
  rw [sanitize_eq_map]
  exact (List.map_congr_left kept).trans (List.map_id _)

/-! ## Names that segments and digests give -/

namespace Segment

variable {segment : Text}

theorem isName (relative : isRelative segment = false) (accepted : isSegment segment = true) :
    Path.IsName segment := by
  obtain ⟨nonempty, delimiter⟩ := delimiter_notMem_of_isSegment accepted
  obtain ⟨ne_here, ne_above⟩ := isRelative_eq_false_iff.1 relative
  exact ⟨nonempty, delimiter '/' (by decide), ne_here, ne_above⟩

theorem isRelative_of_isName (named : Path.IsName segment) : isRelative segment = false :=
  isRelative_eq_false_iff.2 ⟨named.ne_here, named.ne_above⟩

theorem sanitize_of_isSegment (accepted : isSegment segment = true) :
    LocalPath.sanitize segment = segment := by
  have others : ∀ d ∈ LocalPath.forbidden, isSegmentChar d = false ∧ d ≠ '\n' := by decide
  refine LocalPath.sanitize_eq_self fun c mem bad => ?_
  rcases isSegmentChar_or_lineBreak accepted mem with allowed | lineBreak
  · exact absurd allowed (by simp [others c bad])
  · exact (others c bad).2 lineBreak

end Segment

theorem ResolvedLocator.IsRead.isName_lastSegment {resolved : ResolvedLocator}
    (read : resolved.IsRead) : Path.IsName resolved.lastSegment :=
  have plain := read.segments resolved.lastSegment (List.getLast_mem resolved.path_ne_nil)
  Segment.isName plain.1 plain.2

namespace LocalPath

theorem isSegment_digestName (name : Text) : Segment.isSegment (digestName name) = true := by
  have digits : ∀ c ∈ Digest.Md5.upperDigits, Segment.isSegmentChar c = true ∧ c ≠ '\n' := by decide
  have chars : ∀ c ∈ digestName name, Segment.isSegmentChar c = true ∧ c ≠ '\n' :=
    fun c mem => digits c (Digest.Md5.hexDigit_of_mem_hex mem)
  have noBreak : '\n' ∉ digestName name := fun mem => (chars _ mem).2 rfl
  have nonempty : digestName name ≠ [] :=
    List.ne_nil_of_length_pos (Digest.Md5.length_hex name ▸ Nat.succ_pos 31)
  simp only [Segment.isSegment, Text.dropFinal_of_notMem noBreak, Bool.and_eq_true,
    Bool.not_eq_true', List.all_eq_true]
  exact ⟨List.isEmpty_eq_false_iff.2 nonempty, fun c mem => (chars c mem).1⟩

theorem isName_digestName (name : Text) : Path.IsName (digestName name) := by
  have length : (digestName name).length = 32 := Digest.Md5.length_hex name
  have relative : Segment.isRelative (digestName name) = false := by
    rw [Segment.isRelative_eq_false_iff]
    constructor <;>
    · intro same
      rw [same] at length
      exact absurd length (by decide)
  exact Segment.isName relative (isSegment_digestName name)

theorem notMem_dot_digestName (name : Text) : '.' ∉ digestName name := fun mem =>
  absurd (Digest.Md5.hexDigit_of_mem_hex mem) (by decide)

/-! ## Levels -/

/-- The names of the path on the server: those of all segments but the last, unless it is the only
one. -/
def levels : List Text → List Text
  | [segment] => [segment]
  | segments => segments.dropLast

theorem serverPath_eq_ofNames (segments : List Text) :
    serverPath segments = Path.ofNames 0 (levels segments) := by
  unfold serverPath levels
  split <;> simp [Path.ofNames, Text.joinWith]

theorem mem_of_mem_levels {segments : List Text} {segment : Text}
    (mem : segment ∈ levels segments) : segment ∈ segments := by
  unfold levels at mem
  split at mem
  · exact mem
  · exact List.dropLast_subset _ mem

theorem levels_ne_nil {segments : List Text} (nonempty : segments ≠ []) : levels segments ≠ [] := by
  unfold levels
  split
  · exact List.cons_ne_nil _ _
  · next several =>
    intro empty
    match segments with
    | [segment] => exact several segment rfl
    | _ :: _ :: _ => cases empty

theorem levels_eq_dropLast {segments : List Text} (several : ∀ segment, segments ≠ [segment]) :
    levels segments = segments.dropLast := by
  unfold levels
  split
  · exact absurd rfl (several _)
  · rfl

/-- A single segment shares its levels and its last segment with the path that repeats it. -/
theorem levels_singleton {segment : Text} {segments : List Text} (nonempty : segments ≠ [])
    (several : ∀ segment, segments ≠ [segment]) :
    levels segments = [segment] ∧ segments.getLast nonempty = segment ↔
      segments = [segment, segment] := by
  rw [levels_eq_dropLast several]
  constructor
  · rintro ⟨before, last⟩
    rw [← List.dropLast_concat_getLast nonempty, before, last]
    rfl
  · rintro rfl
    exact ⟨rfl, rfl⟩

/-- The only different paths that give the same levels and end in the same segment. -/
theorem levels_inj {left right : List Text} (leftNonempty : left ≠ []) (rightNonempty : right ≠ [])
    (different : left ≠ right) :
    levels left = levels right ∧ left.getLast leftNonempty = right.getLast rightNonempty ↔
      ∃ segment, left = [segment] ∧ right = [segment, segment] ∨
        left = [segment, segment] ∧ right = [segment] := by
  constructor
  · rintro ⟨same, last⟩
    -- Paths of several segments are given by their levels and their last segment.
    by_cases leftOne : ∃ segment, left = [segment]
    · obtain ⟨segment, rfl⟩ := leftOne
      have several : ∀ other, right ≠ [other] := by
        rintro other rfl
        exact different same
      exact ⟨segment, .inl ⟨rfl, (levels_singleton rightNonempty several).1
        ⟨same.symm, last.symm⟩⟩⟩
    · have several := not_exists.1 leftOne
      by_cases rightOne : ∃ segment, right = [segment]
      · obtain ⟨segment, rfl⟩ := rightOne
        exact ⟨segment, .inr ⟨(levels_singleton leftNonempty several).1 ⟨same, last⟩, rfl⟩⟩
      · rw [levels_eq_dropLast several, levels_eq_dropLast (not_exists.1 rightOne)] at same
        refine absurd ?_ different
        rw [← List.dropLast_concat_getLast leftNonempty, same, last, List.dropLast_concat_getLast]
  · rintro ⟨segment, ⟨rfl, rfl⟩ | ⟨rfl, rfl⟩⟩ <;> exact ⟨rfl, rfl⟩

/-- The directory for an identity under a root leads along the components of the path on the
server, whatever these are. -/
theorem directory_eq_ofNames {slashes : Nat} (positive : slashes ≠ 0) {above : List Text}
    {identity : Text} (root : Path.ArePieces above) (named : Path.IsName identity)
    (subPath : Text) :
    directory (Path.ofNames slashes above) identity subPath =
      Path.ofNames slashes (above ++ identity :: Path.names subPath) := by
  have piece : identity ≠ [] ∧ '/' ∉ identity := ⟨named.ne_nil, named.notMem_slash⟩
  have first : Path.ArePieces (above ++ [identity]) :=
    List.forall_mem_append.2 ⟨root, List.forall_mem_singleton.2 piece⟩
  rw [directory, Path.join_ofNames positive root piece, ← Path.names,
    Path.joinAll_ofNames positive first (Path.arePieces_names subPath), List.append_assoc,
    List.singleton_append]

theorem directory_ofNames {slashes : Nat} (positive : slashes ≠ 0) {above below : List Text}
    {identity : Text} (root : Path.ArePieces above) (named : Path.IsName identity)
    (plain : Path.ArePieces below) :
    directory (Path.ofNames slashes above) identity (Path.ofNames 0 below) =
      Path.ofNames slashes (above ++ identity :: below) := by
  rw [directory_eq_ofNames positive root named, Path.names_ofNames 0 plain]

/-! ## Plans by their strategies -/

/-- The levels below the identity. -/
def Strategy.levels (segments : List Text) : Strategy → List Text
  | full | hashedName => LocalPath.levels segments
  | shortDirectory => []

theorem Target.directory_eq (target : Target) (strategy : Strategy) :
    target.directory strategy = LocalPath.directory target.root target.identity
      (Path.ofNames 0 (strategy.levels target.segments)) := by
  cases strategy with
  | full => rw [Target.directory, serverPath_eq_ofNames]; rfl
  | hashedName => rw [Target.directory, serverPath_eq_ofNames]; rfl
  | shortDirectory => rfl

section Choice

variable {segments : List Text} {root identity name : Text} {budget : Budget} {plan : Plan}

theorem choose_eq_ok (chosen : (choose segments root identity name budget).result = .ok plan) :
    plan.directory = directory root identity (Path.ofNames 0 (plan.strategy.levels segments)) ∧
      plan.fileName = sanitize (plan.strategy.fileName name) := by
  obtain ⟨strategy, -, -, rfl⟩ :=
    (Target.choose_eq_ok_iff ⟨segments, root, identity, name⟩).1 chosen
  exact ⟨Target.directory_eq _ strategy, rfl⟩

/-- A plan keeps its budget, although its file name is sanitized only once it has been measured. -/
theorem byteLength_le_of_choose
    (chosen : (choose segments root identity name budget).result = .ok plan) :
    Text.byteLength plan.fullPath ≤ budget.fullPath :=
  (Target.keeps_of_choose ⟨segments, root, identity, name⟩ chosen).fullPath_le

end Choice

/-- The segments of a path, as resolved locators have them. -/
def AreSegments (segments : List Text) : Prop :=
  ∀ segment ∈ segments, Segment.isRelative segment = false ∧ Segment.isSegment segment = true

variable {segments : List Text} {name : Text}

theorem isName_of_mem_levels (plain : AreSegments segments) (strategy : Strategy) :
    ∀ level ∈ strategy.levels segments, Path.IsName level := by
  intro level mem
  have given := plain level
  cases strategy with
  | full => exact Segment.isName (given (mem_of_mem_levels mem)).1 (given (mem_of_mem_levels mem)).2
  | hashedName =>
    exact Segment.isName (given (mem_of_mem_levels mem)).1 (given (mem_of_mem_levels mem)).2
  | shortDirectory => cases mem

theorem isName_fileName (named : Path.IsName name) (strategy : Strategy) :
    Path.IsName (strategy.fileName name) := by
  obtain rfl | digest := fileName_cases strategy name
  · exact named
  · rw [digest]
    exact isName_digestName name

theorem sanitize_fileName (accepted : Segment.isSegment name = true) (strategy : Strategy) :
    sanitize (strategy.fileName name) = strategy.fileName name := by
  obtain rfl | digest := fileName_cases strategy name
  · exact Segment.sanitize_of_isSegment accepted
  · rw [digest]
    exact Segment.sanitize_of_isSegment (isSegment_digestName name)

/-- The full path of a plan leads along the names of the root, the identity, the levels of the
strategy and the file name, which is the last segment or its digest. -/
theorem fullPath_eq_ofNames {slashes : Nat} (positive : slashes ≠ 0) {above : List Text}
    (root : Path.ArePieces above) {identity : Text} (named : Path.IsName identity)
    (plain : AreSegments segments) (accepted : Segment.isSegment name = true) {budget : Budget}
    {plan : Plan}
    (chosen : (choose segments (Path.ofNames slashes above) identity name budget).result =
      .ok plan) :
    plan.fullPath = Path.ofNames slashes
      (above ++ identity :: (plan.strategy.levels segments ++ [plan.strategy.fileName name])) := by
  obtain ⟨directoryEq, fileNameEq⟩ := choose_eq_ok chosen
  have below := Path.arePieces_of_isName (isName_of_mem_levels plain plan.strategy)
  rw [Plan.fullPath, fullPath, directoryEq, fileNameEq, sanitize_fileName accepted,
    directory_ofNames positive root named below,
    ← Path.ofNames_append_singleton slashes (List.append_ne_nil_of_right_ne_nil _
      (List.cons_ne_nil _ _)), List.append_assoc, List.cons_append]

end LocalPath
end SyncedFile
