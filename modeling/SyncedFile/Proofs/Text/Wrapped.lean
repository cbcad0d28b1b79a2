import SyncedFile.Text.Wrap
import SyncedFile.Proofs.Text.Pieces

/-!
# Text set in lines

Setting a text in lines takes it apart at line breaks, between words and inside words that are too
long, turns tabs into spaces, and cuts off what is left over at the end of a line. All that is put
into the text by this are spaces.

* `AllOf` — every character in some lines is of one kind;
* `Filling.AllOf.add` — a word that is put into a line brings its own characters only;
* `mem_wrap` — the characters of a text that is set in lines.
-/

namespace SyncedFile.Text

/-- All characters of these lines are of one kind. -/
def AllOf (p : Char → Prop) (lines : List Text) : Prop :=
  ∀ line ∈ lines, ∀ c ∈ line, p c

section

variable {p : Char → Prop}

theorem allOf_of_flatten {pieces : List Text} (all : ∀ c ∈ pieces.flatten, p c) :
    AllOf p pieces := by
  intro piece mem c memPiece
  exact all c (List.mem_flatten.2 ⟨piece, mem, memPiece⟩)

/-! ## Tabs and ends of lines -/

theorem allOf_setTabs (space : p ' ') {pieces : List Text} (all : AllOf p pieces) (column : Nat) :
    ∀ c ∈ setTabs column pieces, p c := by
  induction pieces generalizing column with
  | nil => exact fun c mem => absurd mem List.not_mem_nil
  | cons piece more ih =>
    have first := all piece List.mem_cons_self
    cases more with
    | nil => exact first
    | cons next more =>
      have others := ih fun line mem => all line (List.mem_cons_of_mem _ mem)
      intro c mem
      simp only [setTabs, List.mem_append, List.mem_cons, List.mem_replicate] at mem
      rcases mem with (inPiece | rfl | ⟨-, rfl⟩) | inOthers
      · exact first c inPiece
      · exact space
      · exact space
      · exact others _ c inOthers

theorem allOf_cropClusters (space : p ' ') {clusters : List Cluster}
    (all : AllOf p (clusters.map Cluster.text)) (width : Nat) :
    ∀ c ∈ cropClusters width clusters, p c := by
  induction clusters generalizing width with
  | nil => exact fun c mem => absurd mem List.not_mem_nil
  | cons cluster rest ih =>
    have first := all cluster.text List.mem_cons_self
    have others := ih fun line mem => all line (List.mem_cons_of_mem _ mem)
    intro c mem
    rw [cropClusters] at mem
    split at mem
    · rcases List.mem_append.1 mem with inCluster | inOthers
      · exact first c inCluster
      · exact others _ c inOthers
    · -- Half of a wide cluster is a space.
      split at mem
      · exact absurd mem List.not_mem_nil
      · rw [List.mem_singleton.1 mem]
        exact space

theorem allOf_settle (space : p ' ') {line : Text} (all : ∀ c ∈ line, p c) (width : Nat) :
    ∀ c ∈ settle width line, p c := by
  simp only [settle]
  generalize line.length - min _ _ = kept
  have short : ∀ c ∈ line.take kept, p c := fun c mem => all c (List.mem_of_mem_take mem)
  split
  · rw [crop]
    split
    · exact fun c mem => absurd mem List.not_mem_nil
    · apply allOf_cropClusters space
      apply allOf_of_flatten
      rw [flatten_clusters]
      exact short
  · exact short

/-! ## Lines while they are filled -/

/-- All characters in the lines so far are of one kind. -/
structure Filling.AllOf (p : Char → Prop) (filling : Filling) : Prop where
  full : Text.AllOf p filling.full
  current : ∀ c ∈ filling.current, p c

namespace Filling.AllOf

variable {filling : Filling}

theorem endIn (holds : filling.AllOf p) {parts : List Text} (all : Text.AllOf p parts) :
    (filling.endIn parts).AllOf p := by
  induction parts generalizing filling with
  | nil => exact holds
  | cons part more ih =>
    have first := all part List.mem_cons_self
    cases more with
    | nil => exact ⟨holds.full, first⟩
    | cons next more =>
      have full : Text.AllOf p (filling.full ++ [part]) :=
        List.forall_mem_append.2 ⟨holds.full, List.forall_mem_singleton.2 first⟩
      exact ih ⟨full, holds.current⟩ fun line mem => all line (List.mem_cons_of_mem _ mem)

theorem add (holds : filling.AllOf p) {word : Text} (all : ∀ c ∈ word, p c) (width : Nat) :
    (filling.add width word).AllOf p := by
  simp only [Filling.add]
  split
  · exact ⟨holds.full, List.forall_mem_append.2 ⟨holds.current, all⟩⟩
  · -- The word begins a new line, and goes on in others where it is too long for one.
    have closed : (if filling.current = [] then filling
        else { filling with full := filling.full ++ [filling.current] }).AllOf p := by
      split
      · exact holds
      · exact ⟨List.forall_mem_append.2 ⟨holds.full, List.forall_mem_singleton.2 holds.current⟩,
          holds.current⟩
    split
    · apply closed.endIn
      apply allOf_of_flatten
      rw [flatten_chop]
      exact all
    · exact closed.endIn (List.forall_mem_singleton.2 all)

theorem addAll (holds : filling.AllOf p) {words : List Text} (all : Text.AllOf p words)
    (width : Nat) : (words.foldl (Filling.add width) filling).AllOf p := by
  induction words generalizing filling with
  | nil => exact holds
  | cons word more ih =>
    have first := all word List.mem_cons_self
    exact ih (holds.add first width) fun line mem => all line (List.mem_cons_of_mem _ mem)

end Filling.AllOf

theorem allOf_wrapLine (space : p ' ') {line : Text} (all : ∀ c ∈ line, p c) (width : Nat) :
    AllOf p (wrapLine width line) := by
  have expanded : ∀ c ∈ (if '\t' ∈ line then expandTabs line else line), p c := by
    split
    · apply allOf_setTabs space
      intro piece mem c memPiece
      exact all c (mem_of_mem_splitOn mem memPiece)
    · exact all
  simp only [wrapLine]
  generalize (if '\t' ∈ line then expandTabs line else line) = shown at expanded ⊢
  have inWords : AllOf p (words shown) := by
    apply allOf_of_flatten
    rw [flatten_words]
    exact expanded
  have empty : Filling.AllOf p {} :=
    ⟨fun line mem => absurd mem List.not_mem_nil, fun c mem => absurd mem List.not_mem_nil⟩
  have filled := empty.addAll inWords width
  intro settled mem
  obtain ⟨raw, given, rfl⟩ := List.mem_map.1 mem
  apply allOf_settle space
  rcases List.mem_append.1 given with full | current
  · exact filled.full raw full
  · rw [List.mem_singleton.1 current]
    exact filled.current

end

/-- A text that is set in lines has its own characters in them, and spaces. -/
theorem mem_wrap {width : Nat} {t line : Text} {c : Char} (set : line ∈ wrap width t)
    (mem : c ∈ line) : c ∈ t ∨ c = ' ' := by
  obtain ⟨raw, given, inRaw⟩ := List.mem_flatMap.1 set
  have own : ∀ d ∈ raw, d ∈ t ∨ d = ' ' := fun d memRaw => .inl (mem_of_mem_splitOn given memRaw)
  have all : AllOf (fun d => d ∈ t ∨ d = ' ') (wrapLine width raw) :=
    allOf_wrapLine (.inr rfl) own width
  exact all line inRaw c mem

end SyncedFile.Text
