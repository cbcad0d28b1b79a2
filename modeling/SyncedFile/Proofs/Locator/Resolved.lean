import SyncedFile.Proofs.Locator.RoundTrip

/-!
# Resolved addresses read again

An identity may end in a line break, and reading an address drops the breaks in it. So the address
of a resolved locator is read again as that locator but for a line break at the end of its path.

* `resolve_eq_ok` — what resolving can give;
* `ResolvedLocator.IsRead` — the locators that come from raw identifiers, and their segments;
* `normalizeText_url_trim` — an address with a break at its end is read without it;
* `normalize_url_of_resolve` — resolved addresses, and when they are stable.
-/

namespace SyncedFile

theorem Identity.isSegment_text (identity : Identity) :
    Segment.isSegment identity.text = true := by
  have valid := identity.valid
  simp only [Segment.isIdentity, Bool.and_eq_true] at valid
  exact valid.2

theorem Identity.isRelative_text (identity : Identity) :
    Segment.isRelative identity.text = false := by
  have valid := identity.valid
  simp only [Segment.isIdentity, Bool.and_eq_true, Bool.not_eq_true'] at valid
  exact valid.1.2

theorem Identity.eq_text_of_check {value : Value} {identity : Identity}
    (accepted : check value = .ok identity) : value = .text identity.text := by
  cases value with
  | text t =>
    simp only [check, ofValue?] at accepted
    split at accepted
    · next same =>
      split at same
      · obtain rfl := Option.some.inj same
        rw [← Except.ok.inj accepted]
      · cases same
    · cases accepted
  | _ => cases accepted

theorem Identity.kind_of_check {value : Value} {failure : Failure}
    (refused : check value = .error failure) : failure.kind = .validation := by
  rw [check] at refused
  split at refused
  · cases refused
  · cases refused
    rfl

namespace Locator

theorem resolve_eq_ok {locator : Locator} {value : Value} {resolved : ResolvedLocator}
    (given : locator.resolve value = .ok resolved) :
    (∃ identity : Identity, value = .text identity.text ∧
        resolved = locator.substitute identity) ∨
      value.isTruthy = false ∧ Segment.placeholder ∉ locator.path ∧
        resolved.toLocator = locator := by
  rw [resolve] at given
  split at given
  · split at given
    · next identity accepted =>
      exact .inl ⟨identity, Identity.eq_text_of_check accepted, (Except.ok.inj given).symm⟩
    · cases given
  · next missing =>
    split at given
    · next absent =>
      obtain rfl := Except.ok.inj given
      exact .inr ⟨Bool.not_eq_true _ ▸ missing, absent, rfl⟩
    · cases given

/-! ## Segments of resolved locators -/

theorem segments_of_normalize {raw : Value} {origin : Option Origin} {locator : Locator}
    (given : normalize raw origin = .ok locator) : ∀ segment ∈ locator.path,
      segment = Segment.placeholder ∨
        Segment.isRelative segment = false ∧ Segment.isSegment segment = true := by
  obtain ⟨parts, accepted, rfl⟩ := accepted_of_normalize given
  exact accepted.segments

end Locator

/-- The locator has been read from a raw identifier and resolved for a value. -/
def ResolvedLocator.IsRead (resolved : ResolvedLocator) : Prop :=
  ∃ raw origin locator value, Locator.normalize raw origin = .ok locator ∧
    locator.resolve value = .ok resolved

/-- The segments of a resolved locator follow the grammar, and none is a relative reference. -/
theorem ResolvedLocator.IsRead.segments {resolved : ResolvedLocator} (read : resolved.IsRead) :
    ∀ segment ∈ resolved.path,
      Segment.isRelative segment = false ∧ Segment.isSegment segment = true := by
  obtain ⟨raw, origin, locator, value, given, filled⟩ := read
  have accepted := Locator.segments_of_normalize given
  intro segment mem
  rcases Locator.resolve_eq_ok filled with ⟨identity, -, rfl⟩ | ⟨-, absent, rfl⟩
  · obtain ⟨before, inPath, rfl⟩ := List.mem_map.1 mem
    rw [Locator.fill]
    split
    · exact ⟨identity.isRelative_text, identity.isSegment_text⟩
    · next other => exact (accepted before inPath).resolve_left other
  · exact (accepted segment mem).resolve_left fun placeholder => absurd (placeholder ▸ mem) absent

namespace Locator

/-! ## A line break after an address -/

/-- A line break after a text of URI characters changes nothing. -/
theorem normalizeText_of_append_lineBreak {t : Text} (nonempty : t ≠ []) (chars : IsUriText t)
    {origin : Option Origin} {locator : Locator}
    (given : normalizeText (t ++ ['\n']) origin = .ok locator) :
    normalizeText t origin = .ok locator := by
  rw [normalizeText_eq_ok_iff, Uri.split_append_lineBreak] at given
  exact normalizeText_eq_ok_iff.2 ⟨hasUriChars_of_isUriText nonempty chars, given.2⟩

namespace Parts

variable {parts : Parts}

def lastSegment (parts : Parts) : Text :=
  parts.path.getLast parts.path_ne_nil

theorem lastSegment_mem (parts : Parts) : parts.lastSegment ∈ parts.path :=
  List.getLast_mem parts.path_ne_nil

theorem dropLast_append_lastSegment (parts : Parts) :
    parts.path.dropLast ++ [parts.lastSegment] = parts.path :=
  List.dropLast_concat_getLast parts.path_ne_nil

/-- The address up to its last segment. -/
def front (parts : Parts) : Text :=
  parts.scheme ++ ':' :: '/' :: '/' ::
    (parts.locator.authority ++ '/' :: parts.path.dropLast.flatMap (· ++ ['/']))

theorem url_eq_append_lastSegment (parts : Parts) : parts.locator.url =
    parts.front ++ parts.lastSegment ++ parts.queryText ++ parts.fragmentText := by
  have joined : Text.joinWith ['/'] parts.locator.path =
      parts.path.dropLast.flatMap (· ++ ['/']) ++ parts.lastSegment := by
    rw [← Text.joinWith_append_singleton, dropLast_append_lastSegment]
    rfl
  simp [url_locator, restText, pathText, joined, front]

/-- The parts without a line break at the end of the path. -/
def trim (parts : Parts) : Parts :=
  { parts with
    path := parts.path.dropLast ++ [Text.dropFinal '\n' parts.lastSegment]
    path_ne_nil := List.append_ne_nil_of_right_ne_nil _ (List.cons_ne_nil _ _) }

theorem lastSegment_trim (parts : Parts) :
    parts.trim.lastSegment = Text.dropFinal '\n' parts.lastSegment :=
  List.getLast_concat

theorem front_trim (parts : Parts) : parts.trim.front = parts.front := by
  have before : parts.trim.path.dropLast = parts.path.dropLast := List.dropLast_concat
  rw [front, before]
  rfl

theorem trim_eq_self (whole : Text.dropFinal '\n' parts.lastSegment = parts.lastSegment) :
    parts.trim = parts := by
  simp only [trim, whole, dropLast_append_lastSegment]

theorem trim_locator_ne_iff :
    parts.trim.locator ≠ parts.locator ↔ parts.lastSegment.getLast? = some '\n' := by
  constructor
  · intro other
    refine Decidable.byContradiction fun last => ?_
    exact other (congrArg locator (trim_eq_self (Text.dropFinal_eq_self_iff.2 last)))
  · intro last same
    have paths : parts.trim.lastSegment = parts.lastSegment := by
      have eq : parts.trim.path = parts.path := congrArg Locator.path same
      simp only [lastSegment, eq]
    rw [lastSegment_trim] at paths
    exact Text.dropFinal_eq_self_iff.1 paths last

theorem readable_trim (readable : parts.Readable)
    (nonempty : Text.dropFinal '\n' parts.lastSegment ≠ []) : parts.trim.Readable where
  scheme := readable.scheme
  host := readable.host
  separated segment mem := by
    rcases List.mem_append.1 mem with before | last
    · exact readable.separated segment (List.dropLast_subset _ before)
    · -- The last segment has lost at most a break, and keeps the rest of what it held.
      obtain rfl := List.mem_singleton.1 last
      have separated := readable.separated _ (lastSegment_mem parts)
      refine ⟨nonempty, fun c ends inLast => separated.2 c ends ?_⟩
      exact Text.mem_of_mem_dropFinal inLast
  port_le := readable.port_le
  query := readable.query
  userinfo := readable.userinfo

theorem url_eq_url_trim_append (readable : parts.Readable) (query : '\n' ∉ parts.query)
    (fragment : '\n' ∉ parts.fragment) (last : parts.locator.url.getLast? = some '\n') :
    parts.locator.url = parts.trim.locator.url ++ ['\n'] := by
  have unmarked {mark : Char} {t : Text} (other : mark ≠ '\n') (absent : '\n' ∉ t) :
      '\n' ∉ Text.marked mark t := fun mem => (Text.mem_marked mem).elim other.symm absent
  rw [url_eq_append_lastSegment] at last
  have noFragment : parts.fragmentText = [] :=
    Text.eq_nil_of_getLast? last (unmarked (by decide) fragment)
  rw [noFragment, List.append_nil] at last
  have noQuery : parts.queryText = [] :=
    Text.eq_nil_of_getLast? last (unmarked (by decide) query)
  rw [noQuery, List.append_nil] at last
  -- Nothing is left behind the path, so the break is the last character of the last segment.
  have segment : parts.lastSegment.getLast? = some '\n' := by
    have nonempty := (readable.separated _ (lastSegment_mem parts)).1
    rw [List.getLast?_append, List.getLast?_eq_some_getLast nonempty, Option.some_or] at last
    rw [List.getLast?_eq_some_getLast nonempty, last]
  have same : parts.trim.queryText = [] ∧ parts.trim.fragmentText = [] := ⟨noQuery, noFragment⟩
  rw [url_eq_append_lastSegment, url_eq_append_lastSegment, lastSegment_trim, front_trim, noQuery,
    noFragment, same.1, same.2]
  simp only [List.append_nil, List.append_assoc, Text.append_dropFinal segment]

/-- An address with a line break at its end is read without it. -/
theorem eq_trim_of_normalizeText_url (readable : parts.Readable) (query : '\n' ∉ parts.query)
    (fragment : '\n' ∉ parts.fragment)
    (nonempty : Text.dropFinal '\n' parts.lastSegment ≠ []) {origin : Option Origin}
    {locator : Locator} (given : normalizeText parts.locator.url origin = .ok locator) :
    locator = parts.trim.locator := by
  have allowed := (normalizeText_eq_ok_iff.1 given).1
  simp only [hasUriChars, Bool.and_eq_true, List.all_eq_true] at allowed
  rcases Text.dropFinal_cases '\n' parts.locator.url with broken | whole
  · -- The address goes through the check of its characters because the break is at its end.
    have last : parts.locator.url.getLast? = some '\n' := by
      rw [broken, List.getLast?_concat]
    have trimmed := url_eq_url_trim_append readable query fragment last
    have chars : IsUriText parts.trim.locator.url := by
      rw [trimmed, Text.dropFinal_append_singleton] at allowed
      exact allowed.2
    rw [trimmed] at given
    have same := normalizeText_of_append_lineBreak (url_ne_nil parts.trim) chars given
    have readableTrim := readable_trim readable nonempty
    exact ((normalizeText_url_eq_ok_iff readableTrim chars).1 same).2.2
  · have chars : IsUriText parts.locator.url := by
      rw [whole] at allowed
      exact allowed.2
    have noBreak : '\n' ∉ parts.lastSegment := by
      intro mem
      apply chars.notMem_lineBreak
      simp [url_eq_append_lastSegment, mem]
    rw [trim_eq_self (Text.dropFinal_of_notMem noBreak)]
    exact ((normalizeText_url_eq_ok_iff readable chars).1 given).2.2

/-! ## Resolved locators -/

def fill (identity : Identity) (parts : Parts) : Parts :=
  { parts with
    path := parts.path.map (Locator.fill identity.text)
    path_ne_nil := by simp [parts.path_ne_nil] }

theorem locator_fill (identity : Identity) (parts : Parts) :
    (parts.fill identity).locator = (parts.locator.substitute identity).toLocator := rfl

theorem lastSegment_fill (identity : Identity) (parts : Parts) :
    (parts.fill identity).lastSegment = Locator.fill identity.text parts.lastSegment :=
  List.getLast_map _

theorem readable_fill (readable : parts.Readable) (identity : Identity) :
    (parts.fill identity).Readable where
  scheme := readable.scheme
  host := readable.host
  separated segment mem := by
    obtain ⟨before, inPath, rfl⟩ := List.mem_map.1 mem
    rw [Locator.fill]
    split
    · exact Segment.delimiter_notMem_of_isSegment identity.isSegment_text
    · exact readable.separated before inPath
  port_le := readable.port_le
  query := readable.query
  userinfo := readable.userinfo

theorem notMem_lineBreak_lastSegment (normal : parts.Normal) : '\n' ∉ parts.lastSegment :=
  (normal.pathChars _ (lastSegment_mem parts)).notMem_lineBreak

/-- A resolved locator has readable parts, too. It is the identity that can bring a line break to
the end of the path. -/
theorem parts_of_resolve (normal : parts.Normal) {value : Value} {resolved : ResolvedLocator}
    (filled : parts.locator.resolve value = .ok resolved) :
    ∃ others : Parts, others.Readable ∧ resolved.toLocator = others.locator ∧
      others.query = parts.query ∧ others.fragment = parts.fragment ∧
      Text.dropFinal '\n' others.lastSegment ≠ [] ∧
      (others.lastSegment.getLast? = some '\n' ↔
        parts.lastSegment = Segment.placeholder ∧ ∃ name, value = .text (name ++ ['\n'])) := by
  have noBreak := notMem_lineBreak_lastSegment normal
  have kept : Text.dropFinal '\n' parts.lastSegment ≠ [] := by
    rw [Text.dropFinal_of_notMem noBreak]
    exact (normal.separated _ (lastSegment_mem parts)).1
  have noLast : parts.lastSegment.getLast? ≠ some '\n' :=
    fun last => noBreak (List.mem_of_getLast? last)
  rcases resolve_eq_ok filled with ⟨identity, rfl, rfl⟩ | ⟨falsy, absent, same⟩
  · refine ⟨parts.fill identity, readable_fill normal.toReadable identity,
      (locator_fill identity parts).symm, rfl, rfl, ?_⟩
    rw [lastSegment_fill, Locator.fill]
    split
    · next placeholder =>
      refine ⟨Segment.dropFinal_ne_nil identity.isSegment_text, ?_⟩
      rw [and_iff_right placeholder, List.getLast?_eq_some_iff]
      simp only [Value.text.injEq]
    · next other =>
      refine ⟨kept, fun last => absurd last noLast, fun both => absurd both.1 other⟩
  · refine ⟨parts, normal.toReadable, same, rfl, rfl, kept, fun last => absurd last noLast, ?_⟩
    rintro ⟨placeholder, -⟩
    exact absurd (placeholder ▸ lastSegment_mem parts) absent

end Parts

/-- The address of a resolved locator is read again as that locator, but for a line break at the end
of its path. It is read as another one exactly if the last segment is the placeholder and the
identity that takes its place ends in a line break. -/
theorem normalize_url_of_resolve {raw : Text} {origin : Option Origin} {locator again : Locator}
    {value : Value} {resolved : ResolvedLocator}
    (origins : ∀ o ∈ origin, ∃ url, Origin.ofUrl url = .ok o)
    (given : normalize (.text raw) origin = .ok locator)
    (filled : locator.resolve value = .ok resolved) {second : Option Origin}
    (read : normalize (.text resolved.url) second = .ok again) :
    again = { resolved.toLocator with
      path := resolved.path.dropLast ++ [Text.dropFinal '\n' resolved.lastSegment]
      path_ne_nil := List.append_ne_nil_of_right_ne_nil _ (List.cons_ne_nil _ _) } ∧
    (again ≠ resolved.toLocator ↔ locator.lastSegment = Segment.placeholder ∧
      ∃ name, value = .text (name ++ ['\n'])) := by
  obtain ⟨parts, normal, rfl⟩ := normal_of_normalize origins given
  obtain ⟨others, readable, same, query, fragment, nonempty, breaks⟩ :=
    Parts.parts_of_resolve normal filled
  have noQuery : '\n' ∉ others.query := query ▸ normal.queryChars.notMem_lineBreak
  have noFragment : '\n' ∉ others.fragment := fragment ▸ normal.fragmentChars.notMem_lineBreak
  rw [same, normalize_text (Parts.url_ne_nil others)] at read
  have trimmed := Parts.eq_trim_of_normalizeText_url readable noQuery noFragment nonempty read
  rw [same, trimmed, Parts.trim_locator_ne_iff]
  refine ⟨?_, breaks⟩
  obtain ⟨base, _⟩ := resolved
  obtain rfl : base = others.locator := same
  rfl

def onHost (path : List Text) (nonempty : path ≠ []) : Locator where
  scheme := .text plainScheme
  host := "h"
  path := path
  path_ne_nil := nonempty

/-- The break in an identity gets lost where its address is read, which is then that of another
identity. -/
theorem normalize_url_of_lineBreak :
    ∃ locator resolved again other, normalize (.text "realm://h/a/~") none = .ok locator ∧
      locator.resolve (.text "user\n") = .ok resolved ∧
      normalize (.text resolved.url) none = .ok again ∧ again ≠ resolved.toLocator ∧
      locator.resolve (.text "user") = .ok other ∧ again = other.toLocator := by
  have given : normalize (.text "realm://h/a/~") none =
      .ok (onHost ["a", "~"] (List.cons_ne_nil _ _)) := rfl
  have filled : (onHost ["a", "~"] (List.cons_ne_nil _ _)).resolve (.text "user\n") =
      .ok ⟨onHost ["a", "user\n"] (List.cons_ne_nil _ _), by decide⟩ := rfl
  have read : normalize (.text "realm://h/a/user\n") none =
      .ok (onHost ["a", "user"] (List.cons_ne_nil _ _)) := rfl
  have outcome := normalize_url_of_resolve (fun o mem => by cases mem) given filled read
  exact ⟨_, _, _, _, given, filled, read, outcome.2.2 ⟨rfl, "user", rfl⟩, rfl, rfl⟩

end Locator
end SyncedFile
