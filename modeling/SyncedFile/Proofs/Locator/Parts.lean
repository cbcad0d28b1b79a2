import SyncedFile.Locator.Normalize
import SyncedFile.Proofs.Text.Pieces

/-!
# Locators as their parts

A locator that is read from text shows texts and a number only, so it is given by its parts. This
module says when a raw identifier is accepted and which parts its locator has then.

* `Parts`, `Parts.ofUri` — the parts, and those that a URI gives;
* `Parts.Accepted` — what is checked of a path;
* `normalizeText_eq_ok_iff` — when normalising gives a locator, and which;
* `accepted_of_normalize` — what every normalised locator is made of.
-/

namespace SyncedFile

namespace Segment

theorem isRelative_iff {segment : Text} :
    isRelative segment = true ↔ segment = ['.'] ∨ segment = ['.', '.'] := by
  rw [isRelative, Bool.or_eq_true, beq_iff_eq, beq_iff_eq]

theorem isRelative_eq_false_iff {segment : Text} :
    isRelative segment = false ↔ segment ≠ ['.'] ∧ segment ≠ ['.', '.'] := by
  rw [← Bool.not_eq_true, isRelative_iff, not_or]

theorem check_eq_ok_iff {raw : Value} {segment : Text} :
    check raw segment = .ok () ↔
      segment = placeholder ∨ isRelative segment = false ∧ isSegment segment = true := by
  rw [check]
  split
  · next eq => simp [eq]
  · next ne =>
    split
    · next relative => simp [ne, relative]
    · next notRelative => split <;> simp_all

theorem checkAll_eq_ok_iff {raw : Value} {segments : List Text} :
    checkAll raw segments = .ok () ↔ ∀ segment ∈ segments, check raw segment = .ok () := by
  induction segments with
  | nil => simp [checkAll]
  | cons segment rest ih =>
    rw [checkAll, List.forall_mem_cons]
    split
    · next failure refused => simp [refused]
    · next accepted => rw [ih, accepted, and_iff_right rfl]

theorem isSegmentChar_or_lineBreak {segment : Text} (accepted : isSegment segment = true)
    {c : Char} (mem : c ∈ segment) : isSegmentChar c = true ∨ c = '\n' := by
  simp only [isSegment, Bool.and_eq_true, List.all_eq_true] at accepted
  rcases Text.dropFinal_cases '\n' segment with whole | whole
  · rw [whole, List.mem_append, List.mem_singleton] at mem
    exact mem.imp_left (accepted.2 c)
  · rw [whole] at accepted
    exact .inl (accepted.2 c mem)

theorem dropFinal_ne_nil {segment : Text} (accepted : isSegment segment = true) :
    Text.dropFinal '\n' segment ≠ [] := by
  simp only [isSegment, Bool.and_eq_true, Bool.not_eq_true'] at accepted
  exact List.isEmpty_eq_false_iff.1 accepted.1

/-- A segment is not empty and holds no character that separates or ends paths. -/
theorem delimiter_notMem_of_isSegment {segment : Text} (accepted : isSegment segment = true) :
    segment ≠ [] ∧ ∀ c ∈ ['/', '?', '#'], c ∉ segment := by
  have others : ∀ d ∈ ['/', '?', '#'], isSegmentChar d = false ∧ d ≠ '\n' := by decide
  constructor
  · rintro rfl
    exact dropFinal_ne_nil accepted rfl
  · intro c delimiter mem
    rcases isSegmentChar_or_lineBreak accepted mem with allowed | lineBreak
    · exact absurd allowed (by simp [others c delimiter])
    · exact (others c delimiter).2 lineBreak

end Segment

namespace Locator

/-! ## Parts -/

/-- The parts of a locator that is read from text. -/
structure Parts where
  scheme : Text
  host : Text
  path : List Text
  port : Option Nat
  query : Text
  fragment : Text
  userinfo : Option Text
  path_ne_nil : path ≠ []

namespace Parts

/-- The locator that has these parts. -/
def locator (parts : Parts) : Locator where
  scheme := .text parts.scheme
  host := parts.host
  path := parts.path
  port := (parts.port.map fun n => Value.int n).getD .null
  query := .text parts.query
  fragment := .text parts.fragment
  userinfo := (parts.userinfo.map Value.text).getD .null
  path_ne_nil := parts.path_ne_nil

/-- The parts that the URI of a raw identifier gives. -/
def ofUri (uri : Uri) (port : Option Nat) (origin : Option Origin) (host : Text) : Parts where
  scheme := schemeFor uri.scheme origin
  host := host
  path := segmentsFor uri host
  port := port
  query := uri.query
  fragment := uri.fragment
  userinfo := uri.userinfo?
  path_ne_nil := segmentsFor_ne_nil uri host

/-- The path passes the checks: its segments follow the grammar, and the file name that it gives
has no reserved suffix. -/
structure Accepted (parts : Parts) : Prop where
  segments : ∀ segment ∈ parts.path,
    segment = Segment.placeholder ∨
      Segment.isRelative segment = false ∧ Segment.isSegment segment = true
  fileName : ∀ name ∈ parts.locator.defaultFileName?, Segment.checkSuffix name = .ok ()

theorem Accepted.delimiter_notMem {parts : Parts} (accepted : parts.Accepted) {segment : Text}
    (mem : segment ∈ parts.path) : segment ≠ [] ∧ ∀ c ∈ ['/', '?', '#'], c ∉ segment := by
  rcases accepted.segments segment mem with rfl | ⟨-, grammar⟩
  · exact ⟨by decide, by decide⟩
  · exact Segment.delimiter_notMem_of_isSegment grammar

end Parts

/-! ## Normalising -/

/-- A locator passes its checks unchanged if its segments and its file name are in order. -/
theorem checked_eq_ok_iff {raw : Text} {locator result : Locator} :
    checked raw locator = .ok result ↔
      (∀ segment ∈ locator.path, segment = Segment.placeholder ∨
        Segment.isRelative segment = false ∧ Segment.isSegment segment = true) ∧
      (∀ name ∈ locator.defaultFileName?, Segment.checkSuffix name = .ok ()) ∧
      result = locator := by
  have segments : Segment.checkAll (.text raw) locator.path = .ok () ↔
      ∀ segment ∈ locator.path, segment = Segment.placeholder ∨
        Segment.isRelative segment = false ∧ Segment.isSegment segment = true := by
    simp only [Segment.checkAll_eq_ok_iff, Segment.check_eq_ok_iff]
  simp only [checked, bind, Except.bind]
  cases all : Segment.checkAll (.text raw) locator.path with
  | error failure =>
    refine ⟨fun h => (by cases h), fun h => ?_⟩
    rw [segments.2 h.1] at all
    cases all
  | ok =>
    have inOrder := segments.1 all
    dsimp only
    -- A placeholder at the end gives no file name, so there is no suffix to check then.
    cases named : locator.defaultFileName? with
    | some name =>
      dsimp only
      cases suffix : Segment.checkSuffix name with
      | error failure =>
        refine ⟨fun h => (by cases h), fun h => ?_⟩
        rw [h.2.1 name rfl] at suffix
        cases suffix
      | ok =>
        refine ⟨fun h => ⟨inOrder, ?_, (Except.ok.inj h).symm⟩, fun h => h.2.2 ▸ rfl⟩
        rintro other ⟨⟩
        exact suffix
    | none =>
      refine ⟨fun h => ⟨inOrder, ?_, (Except.ok.inj h).symm⟩, fun h => h.2.2 ▸ rfl⟩
      intro name mem
      cases mem

/-- A URI that passes the checks of its path gives the locator of its parts. -/
theorem assemble_eq_ok_iff {raw : Text} {uri : Uri} {port : Option Nat} {origin : Option Origin}
    {host : Text} {locator : Locator} :
    assemble raw uri port origin host = .ok locator ↔
      (Parts.ofUri uri port origin host).Accepted ∧
        locator = (Parts.ofUri uri port origin host).locator := by
  exact checked_eq_ok_iff.trans ⟨fun h => ⟨⟨h.1, h.2.1⟩, h.2.2⟩, fun h => ⟨h.1.1, h.1.2, h.2⟩⟩

theorem readUri_eq_ok_iff {raw : Text} {uri : Uri} {port : Option Nat} :
    readUri raw = .ok (uri, port) ↔ Uri.split raw = .ok uri ∧ uri.port? = .ok port := by
  simp only [readUri, bind, Except.bind]
  cases Uri.split raw with
  | error fault => simp
  | ok read =>
    simp only [Except.ok.injEq]
    cases ported : read.port? with
    | error fault =>
      simp only [reduceCtorEq, false_iff, not_and]
      rintro rfl
      simp [ported]
    | ok number =>
      simp only [pure, Except.pure, Except.ok.injEq, Prod.mk.injEq]
      constructor
      · rintro ⟨rfl, rfl⟩
        exact ⟨rfl, ported⟩
      · rintro ⟨rfl, same⟩
        rw [ported] at same
        exact ⟨rfl, Except.ok.inj same⟩

/-- The host of the locator: that of the URI, or else that of the origin. -/
def hostFor (uri : Uri) (origin : Option Origin) : Text :=
  uri.host?.getD ((origin.map Origin.host).getD [])

theorem needsOctets_of_host {uri : Uri} (named : uri.host? ≠ none) (origin : Option Origin) :
    needsOctets uri origin = false := by
  rw [needsOctets, Option.isNone_eq_false_iff.2 (Option.isSome_iff_ne_none.2 named),
    Bool.false_and]

theorem needsOctets_of_inText {origin : Option Origin} (inText : ∀ o ∈ origin, o.inOctets = false)
    (uri : Uri) : needsOctets uri origin = false := by
  cases origin with
  | none => exact Bool.and_false _
  | some o => rw [needsOctets, Option.any_some, inText o rfl, Bool.and_false]

/-- A URI that has what normalising needs: a hierarchical form, a path, and a scheme and a host of
its own unless there is an origin to take them from, which has no host to give if it is in octets. -/
structure Complete (uri : Uri) (origin : Option Origin) : Prop where
  hierarchical : uri.scheme ≠ [] → uri.authority = [] → uri.path.head? = some '/'
  scheme_ne_nil : origin = none → uri.scheme ≠ []
  host_ne_none : origin = none → uri.host? ≠ none
  inText : needsOctets uri origin = false
  path_ne_nil : uri.path ≠ []
  path_ne_root : uri.path ≠ ['/']

/-- A reading of an identifier is the only one. -/
theorem exists_reading_iff {raw : Text} {uri : Uri} {port : Option Nat}
    (read : readUri raw = .ok (uri, port)) {P : Uri → Option Nat → Prop} :
    (∃ uri' port', Uri.split raw = .ok uri' ∧ uri'.port? = .ok port' ∧ P uri' port') ↔
      P uri port := by
  obtain ⟨split, ported⟩ := readUri_eq_ok_iff.1 read
  constructor
  · rintro ⟨uri', port', split', ported', holds⟩
    obtain rfl := Except.ok.inj (split.symm.trans split')
    obtain rfl := Except.ok.inj (ported.symm.trans ported')
    exact holds
  · exact fun holds => ⟨uri, port, split, ported, holds⟩

theorem normalizeText_of_reading {raw : Text} {uri : Uri} {port : Option Nat}
    {origin : Option Origin} {locator : Locator} (chars : hasUriChars raw = true)
    (read : readUri raw = .ok (uri, port)) :
    normalizeText raw origin = .ok locator ↔
      Complete uri origin ∧ assemble raw uri port origin (hostFor uri origin) = .ok locator := by
  rw [normalizeText, chars, read]
  simp only [Bool.not_true, Bool.false_eq_true, if_false]
  split
  · next opaqueForm =>
    simp only [reduceCtorEq, false_iff]
    rintro ⟨complete, -⟩
    exact opaqueForm.2.2 (complete.hierarchical opaqueForm.1 opaqueForm.2.1)
  · next hierarchical =>
    split
    · next missing =>
      simp only [reduceCtorEq, false_iff]
      rintro ⟨complete, -⟩
      exact missing.2.elim (complete.scheme_ne_nil missing.1) (complete.host_ne_none missing.1)
    · next present =>
      split
      · next noPath =>
        simp only [reduceCtorEq, false_iff]
        rintro ⟨complete, -⟩
        exact noPath.elim complete.path_ne_nil complete.path_ne_root
      · next path =>
        split
        · next inOctets =>
          simp only [reduceCtorEq, false_iff]
          rintro ⟨complete, -⟩
          exact absurd complete.inText (by simp [inOctets])
        · next inText =>
          have complete : Complete uri origin := by
            refine ⟨fun scheme authority => ?_, fun none nil => ?_, fun none host => ?_,
              Bool.eq_false_iff.2 inText, fun nil => path (.inl nil),
              fun root => path (.inr root)⟩
            · exact Decidable.byContradiction fun head => hierarchical ⟨scheme, authority, head⟩
            · exact present ⟨none, .inl nil⟩
            · exact present ⟨none, .inr host⟩
          rw [Fault.mapError_failure_eq_ok]
          exact ⟨fun h => ⟨complete, h⟩, fun h => h.2⟩

/-- When a raw identifier is accepted, and the locator that it gives then. -/
theorem normalizeText_eq_ok_iff {raw : Text} {origin : Option Origin} {locator : Locator} :
    normalizeText raw origin = .ok locator ↔
      hasUriChars raw = true ∧ ∃ uri port, Uri.split raw = .ok uri ∧ uri.port? = .ok port ∧
        Complete uri origin ∧ (Parts.ofUri uri port origin (hostFor uri origin)).Accepted ∧
        locator = (Parts.ofUri uri port origin (hostFor uri origin)).locator := by
  cases chars : hasUriChars raw with
  | false => simp [normalizeText, chars]
  | true =>
    rw [eq_self, true_and]
    cases read : readUri raw with
    | error fault =>
      simp only [normalizeText, chars, read, Bool.not_true, Bool.false_eq_true, if_false,
        reduceCtorEq, false_iff]
      rintro ⟨uri, port, split, ported, -⟩
      rw [readUri_eq_ok_iff.2 ⟨split, ported⟩] at read
      cases read
    | ok both =>
      obtain ⟨uri, port⟩ := both
      rw [exists_reading_iff read, ← assemble_eq_ok_iff]
      exact normalizeText_of_reading chars read

theorem normalizeText_of_normalize {raw : Value} {origin : Option Origin} {locator : Locator}
    (given : normalize raw origin = .ok locator) :
    ∃ t, raw = .text t ∧ normalizeText t origin = .ok locator := by
  unfold normalize at given
  split at given
  · cases given
  · next t _ => exact ⟨t, rfl, given⟩
  · cases given

theorem accepted_of_normalize {raw : Value} {origin : Option Origin} {locator : Locator}
    (given : normalize raw origin = .ok locator) :
    ∃ parts : Parts, parts.Accepted ∧ locator = parts.locator := by
  obtain ⟨t, -, read⟩ := normalizeText_of_normalize given
  obtain ⟨-, uri, port, -, -, -, accepted, eq⟩ := normalizeText_eq_ok_iff.1 read
  exact ⟨_, accepted, eq⟩

end Locator
end SyncedFile
