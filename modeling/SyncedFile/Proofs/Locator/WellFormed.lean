import SyncedFile.Proofs.Locator.Outcome

/-!
# Well-formed locators

Normalising a raw identifier ends in one of five kinds of failures or in a locator that is well
formed in every field. Only where the identifier has no host, and the address of the origin was given
in octets, may it end in a misuse.

* `Segment.IsReserved`, `Segment.checkSuffix_eq_ok_iff` — the file names that are refused;
* `IsWellFormed`, `Parts.Normal.isWellFormed` — the fields of a locator that has been read;
* `ownKinds`, `isOwn_of_normalize` — the kinds of the failures, and the one misuse;
* `normalizeStrictly`, `normalizeStrictly_eq` — no field of a missing origin is ever read, and no
  locator is made without segments;
* `isWellFormed_or_fails` — the outcomes.
-/

namespace SyncedFile

namespace Segment

/-- The file name ends as the storage engine's own files do. -/
def IsReserved (fileName : Text) : Prop :=
  ∃ suffix ∈ reservedSuffixes, suffix <:+ fileName

instance (fileName : Text) : Decidable (IsReserved fileName) :=
  inferInstanceAs (Decidable (∃ suffix ∈ reservedSuffixes, suffix <:+ fileName))

variable {fileName segment : Text}

theorem checkSuffix_eq_ok_iff : checkSuffix fileName = .ok () ↔ ¬IsReserved fileName := by
  rw [checkSuffix]
  split
  · next suffix found =>
    have ends := List.find?_some found
    rw [List.isSuffixOf_iff_suffix] at ends
    exact iff_of_false (fun accepted => by cases accepted)
      (not_not_intro ⟨suffix, List.mem_of_find?_eq_some found, ends⟩)
  · next missing =>
    refine iff_of_true rfl ?_
    rintro ⟨suffix, listed, ends⟩
    exact List.find?_eq_none.1 missing suffix listed (List.isSuffixOf_iff_suffix.2 ends)

theorem not_isReserved_of_notMem_dot (plain : '.' ∉ fileName) : ¬IsReserved fileName := by
  have dots : ∀ suffix ∈ reservedSuffixes, '.' ∈ suffix := by decide
  rintro ⟨suffix, listed, ends⟩
  exact plain (ends.subset (dots suffix listed))

/-- A segment that stands for a name: no placeholder, no relative reference, and made of nothing but
the characters of segments. -/
structure IsPlain (segment : Text) : Prop where
  ne_nil : segment ≠ []
  chars : ∀ c ∈ segment, isSegmentChar c = true
  ne_here : segment ≠ ['.']
  ne_above : segment ≠ ['.', '.']

/-- The grammar lets a line break pass at the end, so a segment without one is plain. -/
theorem isPlain_of_isSegment (absolute : isRelative segment = false)
    (accepted : isSegment segment = true) (noBreak : '\n' ∉ segment) : IsPlain segment := by
  simp only [isRelative, Bool.or_eq_false_iff, beq_eq_false_iff_ne] at absolute
  refine ⟨(delimiter_notMem_of_isSegment accepted).1, fun c mem => ?_, absolute.1, absolute.2⟩
  rcases isSegmentChar_or_lineBreak accepted mem with allowed | rfl
  · exact allowed
  · exact absurd mem noBreak

end Segment

namespace Locator

/-! ## Fields -/

/-- Every field of the locator is in order. -/
structure IsWellFormed (locator : Locator) : Prop where
  path_ne_nil : locator.path ≠ []
  segments : ∀ segment ∈ locator.path, segment = Segment.placeholder ∨ Segment.IsPlain segment
  lastSegment : ¬Segment.IsReserved locator.lastSegment
  scheme : ∃ scheme : Text, locator.scheme = .text scheme ∧ scheme ≠ [] ∧
    Text.lower scheme = scheme ∧ scheme ≠ "http" ∧ scheme ≠ "https"
  host_ne_nil : locator.host ≠ []
  host : ∀ c ∈ ['/', '?', '#', '@'], c ∉ locator.host
  port : locator.port = .null ∨ ∃ port : Nat, locator.port = .int port ∧ port ≤ 65535
  userinfo : locator.userinfo = .null ∨ ∃ who : Text, locator.userinfo = .text who ∧ who ≠ []

/-- A scheme that stays as it is, is not one of the web. -/
theorem IsScheme.ne_of_mem_webSchemes {scheme : Text} (isScheme : IsScheme scheme)
    {entry : Text × Text} (web : entry ∈ webSchemes) : scheme ≠ entry.1 := by
  have replaced : ∀ entry ∈ webSchemes, schemeFor entry.1 none ≠ entry.1 := by decide
  rintro rfl
  exact replaced entry web (isScheme.kept none)

namespace Parts

variable {parts : Parts}

/-- The last segment has been checked, or it is the placeholder, which has no extension. -/
theorem Accepted.not_isReserved (accepted : parts.Accepted) :
    ¬Segment.IsReserved parts.locator.lastSegment := by
  by_cases filled : parts.locator.lastSegment = Segment.placeholder
  · rw [filled]
    exact Segment.not_isReserved_of_notMem_dot (by decide)
  · exact Segment.checkSuffix_eq_ok_iff.1 (accepted.fileName _ (if_neg filled))

/-- Normal parts make a locator that is well formed. -/
theorem Normal.isWellFormed (normal : parts.Normal) : parts.locator.IsWellFormed where
  path_ne_nil := parts.path_ne_nil
  segments segment mem :=
    (normal.segments segment mem).imp_right fun ⟨absolute, accepted⟩ =>
      Segment.isPlain_of_isSegment absolute accepted (normal.pathChars segment mem).notMem_lineBreak
  lastSegment := normal.toAccepted.not_isReserved
  scheme := by
    have isScheme := normal.scheme
    refine ⟨parts.scheme, rfl, isScheme.ne_nil,
      lower_of_isSchemeChar isScheme.chars isScheme.lowered, ?_, ?_⟩
    · exact isScheme.ne_of_mem_webSchemes List.mem_cons_self
    · exact isScheme.ne_of_mem_webSchemes (List.mem_cons_of_mem _ List.mem_cons_self)
  host_ne_nil := normal.host.ne_nil
  host := normal.host.notMem_delimiter
  port := by
    cases given : parts.port with
    | none => exact .inl (by rw [locator, given]; rfl)
    | some port => exact .inr ⟨port, by rw [locator, given]; rfl, normal.port_le port given⟩
  userinfo := by
    cases given : parts.userinfo with
    | none => exact .inl (by rw [locator, given]; rfl)
    | some who => exact .inr ⟨who, by rw [locator, given]; rfl, (normal.userinfo who given).1⟩

end Parts

/-! ## Failures -/

/-- The kinds of the failures of normalising. -/
def ownKinds : List FailureKind :=
  .malformedLocator :: .missingRequiredField :: pathKinds

/-- The ways in which normalising a text may fail: with a failure of one of those kinds, or for want
of a host where the origin has one in octets. -/
inductive IsOwn (raw : Text) (origin : Option Origin) : Fault → Prop
  | failure {failure : Failure} (own : failure.kind ∈ ownKinds) : IsOwn raw origin (.failure failure)
  | hostInOctets {uri : Uri} (read : Uri.split raw = .ok uri)
      (octets : needsOctets uri origin = true) : IsOwn raw origin (.misuse .hostInOctets)

theorem isOwn_of_checked {raw other : Text} {origin : Option Origin} {locator : Locator}
    {failure : Failure} (refused : checked raw locator = .error failure) :
    IsOwn other origin (.failure failure) :=
  .failure (List.mem_cons_of_mem _ (List.mem_cons_of_mem _ (kind_mem_of_checked refused)))

theorem isOwn_faultInOctets {raw : Text} {uri : Uri} {origin : Option Origin}
    (read : Uri.split raw = .ok uri) (octets : needsOctets uri origin = true) :
    IsOwn raw origin (faultInOctets raw uri) := by
  rw [faultInOctets]
  split
  · next failure bad => exact isOwn_of_checked bad
  · exact .hostInOctets read octets

theorem isOwn_of_assemble {raw : Text} {uri : Uri} {port : Option Nat} {origin : Option Origin}
    {host : Text} {fault : Fault}
    (refused : (assemble raw uri port origin host).mapError .failure = .error fault) :
    IsOwn raw origin fault := by
  rw [assemble_eq_checked] at refused
  cases bad : checked raw _ with
  | error failure =>
    rw [bad] at refused
    cases refused
    exact isOwn_of_checked bad
  | ok locator =>
    rw [bad] at refused
    cases refused

theorem isOwn_of_normalizeText {raw : Text} {origin : Option Origin} {fault : Fault}
    (refused : normalizeText raw origin = .error fault) : IsOwn raw origin fault := by
  have malformed (why : Malformation) :
      IsOwn raw origin (.failure (.malformed (.text raw) why)) := .failure List.mem_cons_self
  rw [normalizeText] at refused
  split at refused
  · cases refused
    exact malformed _
  · split at refused
    · cases refused
      exact malformed _
    · next uri port readUri =>
      split at refused
      · cases refused
        exact malformed _
      · split at refused
        · cases refused
          exact .failure (List.mem_cons_of_mem _ List.mem_cons_self)
        · split at refused
          · cases refused
            exact malformed _
          · split at refused
            · next octets =>
              cases refused
              exact isOwn_faultInOctets (readUri_eq_ok_iff.1 readUri).1 octets
            · exact isOwn_of_assemble refused

theorem isOwn_of_normalize {raw : Value} {origin : Option Origin} {fault : Fault}
    (refused : normalize raw origin = .error fault) :
    (∃ failure, fault = .failure failure ∧ failure.kind ∈ ownKinds) ∨
      ∃ t, raw = .text t ∧ IsOwn t origin fault := by
  unfold normalize at refused
  split at refused
  · cases refused
    exact .inl ⟨_, rfl, List.mem_cons_self⟩
  · exact .inr ⟨_, rfl, isOwn_of_normalizeText refused⟩
  · cases refused
    exact .inl ⟨_, rfl, List.mem_cons_self⟩

/-! ## Strict reading

Reading a field of a missing origin and making a locator without segments are misuses. Normalising
checks beforehand that neither can come up, and so it has no outcome for them. Here every such step
fails by itself, and so does putting an address together with a host in octets. -/

/-- A field of an origin. A missing one has none. -/
def askOrigin {α : Type} (origin : Option Origin) (name : Text) (field : Origin → α) :
    Except Fault α :=
  match origin with
  | some origin => .ok (field origin)
  | none => .error (.misuse (.lacks "NoneType" name))

/-- The scheme of a locator, where only a URI without a scheme asks the origin. -/
def schemeStrictly (scheme : Text) (origin : Option Origin) : Except Fault Text :=
  if scheme = [] then do
    let secure ← askOrigin origin "scheme" Origin.isSecure
    return if secure then secureScheme else plainScheme
  else .ok (schemeFor scheme none)

/-- The host of a locator and whether it is in octets, where only a URI without a host asks the
origin. -/
def hostStrictly (host? : Option Text) (origin : Option Origin) : Except Fault (Text × Bool) :=
  match host? with
  | some host => .ok (host, false)
  | none => askOrigin origin "host" fun origin => (origin.host, origin.inOctets)

/-- The locator of a URI with this scheme and host, if its segments are in order. -/
def assembleStrictly (raw : Text) (uri : Uri) (port : Option Nat) (scheme : Text)
    (host : Text × Bool) : Except Fault Locator := do
  -- No segment is equal to a host in octets.
  let path := if host.2 then pathSegments uri else segmentsFor uri host.1
  (Segment.checkAll (.text raw) path).mapError .failure
  let locator ← (ofSegments? (.text scheme) host.1 path
    ((port.map fun n => Value.int n).getD .null) (.text uri.query) (.text uri.fragment)
    ((uri.userinfo?.map Value.text).getD .null)).mapError .misuse
  match locator.defaultFileName? with
  | some name => (Segment.checkSuffix name).mapError .failure
  | none => pure ()
  if host.2 then .error (.misuse .hostInOctets) else .ok locator

def normalizeTextStrictly (raw : Text) (origin : Option Origin) : Except Fault Locator := do
  let refuse (why : Malformation) : Fault := .failure (.malformed (.text raw) why)
  if !hasUriChars raw then throw (refuse .forbiddenCharacter)
  let (uri, port) ← (readUri raw).mapError fun fault => refuse (.unreadable fault)
  if uri.scheme ≠ [] ∧ uri.authority = [] ∧ uri.path.head? ≠ some '/' then
    throw (refuse .withoutAuthority)
  if origin = none ∧ (uri.scheme = [] ∨ uri.host? = none) then
    throw (.failure (.missingField .authOrigin))
  let scheme ← schemeStrictly uri.scheme origin
  let host ← hostStrictly uri.host? origin
  if uri.path = [] ∨ uri.path = ['/'] then throw (refuse .withoutPath)
  assembleStrictly raw uri port scheme host

def normalizeStrictly (raw : Value) (origin : Option Origin) : Except Fault Locator :=
  match raw with
  | .text [] => .error (.failure (.malformed raw .notText))
  | .text t => normalizeTextStrictly t origin
  | _ => .error (.failure (.malformed raw .notText))

/-- A scheme is missing only where there is an origin, so the origin that is asked is there. -/
theorem schemeStrictly_eq {scheme : Text} {origin : Option Origin}
    (complete : origin = none → scheme ≠ []) :
    schemeStrictly scheme origin = .ok (schemeFor scheme origin) := by
  rw [schemeStrictly]
  split
  · next missing =>
    cases origin with
    | none => exact absurd missing (complete rfl)
    | some origin =>
      rw [schemeFor, if_pos missing]
      rfl
  · next given => simp only [schemeFor, if_neg given]

theorem hostStrictly_eq {uri : Uri} {origin : Option Origin}
    (complete : origin = none → uri.host? ≠ none) :
    hostStrictly uri.host? origin = .ok (hostFor uri origin, needsOctets uri origin) := by
  rw [hostFor, needsOctets]
  cases given : uri.host? with
  | some host => rfl
  | none =>
    cases origin with
    | none => exact absurd given (complete rfl)
    | some origin => rfl

theorem assembleStrictly_eq (raw : Text) (uri : Uri) (port : Option Nat) (origin : Option Origin)
    (host : Text) (inOctets : Bool) :
    assembleStrictly raw uri port (schemeFor uri.scheme origin) (host, inOctets) =
      if inOctets then .error (faultInOctets raw uri)
      else (assemble raw uri port origin host).mapError .failure := by
  cases inOctets with
  | true =>
    simp only [assembleStrictly, if_true, faultInOctets, checked, ofSegments?,
      dif_pos (pathSegments_ne_nil uri), bind, Except.bind]
    cases Segment.checkAll (.text raw) (pathSegments uri) with
    | error failure => rfl
    | ok =>
      unfold Except.mapError
      dsimp only [defaultFileName?, lastSegment]
      by_cases unnamed : (pathSegments uri).getLast (pathSegments_ne_nil uri) = Segment.placeholder
      · simp only [unnamed, if_true]
        rfl
      · simp only [unnamed, if_false]
        cases Segment.checkSuffix _ <;> rfl
  | false =>
    simp only [assembleStrictly, Bool.false_eq_true, if_false, assemble, checked, ofSegments?,
      dif_pos (segmentsFor_ne_nil uri host), bind, Except.bind]
    cases Segment.checkAll (.text raw) (segmentsFor uri host) with
    | error failure => rfl
    | ok =>
      unfold Except.mapError
      dsimp only [defaultFileName?, lastSegment]
      by_cases unnamed :
          (segmentsFor uri host).getLast (segmentsFor_ne_nil uri host) = Segment.placeholder
      · simp only [unnamed, if_true]
        rfl
      · simp only [unnamed, if_false]
        cases Segment.checkSuffix _ <;> rfl

theorem normalizeTextStrictly_eq (raw : Text) (origin : Option Origin) :
    normalizeTextStrictly raw origin = normalizeText raw origin := by
  simp only [normalizeTextStrictly, normalizeText, bind, Except.bind]
  split
  · rfl
  · cases readUri raw with
    | error fault => rfl
    | ok both =>
      obtain ⟨uri, port⟩ := both
      unfold Except.mapError
      dsimp only
      split
      · rfl
      · split
        · rfl
        · next present =>
          have scheme : schemeStrictly uri.scheme origin = .ok (schemeFor uri.scheme origin) :=
            schemeStrictly_eq fun missing nil => present ⟨missing, .inl nil⟩
          have host : hostStrictly uri.host? origin =
              .ok (hostFor uri origin, needsOctets uri origin) :=
            hostStrictly_eq fun missing none => present ⟨missing, .inr none⟩
          simp only [scheme, host]
          split
          · rfl
          · exact assembleStrictly_eq raw uri port origin _ _

/-- Where every step can end in a misuse of its own, none does but that of a host in octets. -/
theorem normalizeStrictly_eq (raw : Value) (origin : Option Origin) :
    normalizeStrictly raw origin = normalize raw origin := by
  cases raw with
  | text t =>
    cases t with
    | nil => rfl
    | cons c rest => exact normalizeTextStrictly_eq (c :: rest) origin
  | _ => rfl

/-- An identifier without a host cannot be normalised at an origin whose address was in octets. -/
def LacksHostInText (raw : Value) (origin : Option Origin) : Prop :=
  ∃ t uri o bytes, raw = .text t ∧ Uri.split t = .ok uri ∧ uri.host? = none ∧ origin = some o ∧
    Origin.ofUrl (.octets .fixed bytes) = .ok o

/-- Without an origin, or with one that has been read from an address, normalising any value ends in
a failure of a kind of its own or in a locator that is well formed. Only where a host is missing, and
the address was given in octets, may it end in a misuse. -/
theorem isWellFormed_or_fails (raw : Value) {origin : Option Origin}
    (given : ∀ o ∈ origin, ∃ url, Origin.ofUrl url = .ok o) :
    normalizeStrictly raw origin = normalize raw origin ∧
    ((∃ failure, normalize raw origin = .error (.failure failure) ∧ failure.kind ∈ ownKinds) ∨
      (∃ locator, normalize raw origin = .ok locator ∧ locator.IsWellFormed) ∨
      normalize raw origin = .error (.misuse .hostInOctets) ∧ LacksHostInText raw origin) := by
  refine ⟨normalizeStrictly_eq raw origin, ?_⟩
  cases result : normalize raw origin with
  | error fault =>
    rcases isOwn_of_normalize result with ⟨failure, rfl, own⟩ | ⟨t, rfl, own⟩
    · exact .inl ⟨failure, rfl, own⟩
    · cases own with
      | failure own => exact .inl ⟨_, rfl, own⟩
      | @hostInOctets uri read octets =>
        rw [needsOctets, Bool.and_eq_true, Option.isNone_iff_eq_none, Option.any_eq_true] at octets
        obtain ⟨missing, o, rfl, octets⟩ := octets
        obtain ⟨url, fromUrl⟩ := given o rfl
        refine .inr (.inr ⟨rfl, t, uri, o, ?_⟩)
        rcases Origin.eq_text_or_octets_of_ofUrl fromUrl with ⟨text, rfl⟩ | ⟨bytes, rfl⟩
        · rw [Origin.inOctets_of_ofUrl_text fromUrl] at octets
          cases octets
        · exact ⟨bytes, rfl, read, missing, rfl, fromUrl⟩
  | ok locator =>
    obtain ⟨parts, normal, rfl⟩ := normal_of_normalize given result
    exact .inr (.inl ⟨_, rfl, normal.isWellFormed⟩)

/-- An authority without a host gets that of the origin, and the locator is in order. -/
theorem isWellFormed_of_missing_host :
    ∃ origin, Origin.ofUrl (.text "https://auth.example.com/auth") = .ok origin ∧
      ∃ locator, normalize (.text "//who@:9080/~/default") (some origin) = .ok locator ∧
        locator.url = "realms://who@auth.example.com:9080/~/default" ∧ locator.IsWellFormed := by
  have address : Origin.ofUrl (.text "https://auth.example.com/auth") =
      .ok ⟨"https", "auth.example.com", false⟩ := rfl
  refine ⟨_, address, ?_⟩
  have given : ∀ o ∈ some (Origin.mk "https" "auth.example.com" false),
      ∃ url, Origin.ofUrl url = .ok o := by
    rintro o ⟨⟩
    exact ⟨_, address⟩
  rcases (isWellFormed_or_fails (.text "//who@:9080/~/default") given).2 with
    ⟨failure, failed, -⟩ | ⟨locator, read, wellFormed⟩ | ⟨failed, -⟩
  · cases failed
  · obtain rfl := Except.ok.inj read
    exact ⟨_, read, rfl, wellFormed⟩
  · cases failed

/-- The usual address in octets, and an identifier that takes its host from there. -/
theorem misuse_of_octets :
    ∃ origin, Origin.ofUrl (.octets .fixed (Text.utf8 "https://auth.example.com/auth")) =
        .ok origin ∧
      normalize (.text "/~/default") (some origin) = .error (.misuse .hostInOctets) := by
  have address : Origin.ofUrl (.octets .fixed (Text.utf8 "https://auth.example.com/auth")) =
      .ok ⟨"https", "auth.example.com", true⟩ := by rfl
  exact ⟨_, address, rfl⟩

end Locator
end SyncedFile
