import SyncedFile.Proofs.Locator.Outcome

/-!
# Relative and absolute identifiers

A path that is relative to an origin stands for the address that has the scheme and the host of the
origin before it. Both forms come to the same, except that a relative path loses a first segment that
names the host.

* `Origin.addressOf` — the absolute form of a path;
* `split_relative`, `split_absolute` — how both forms are taken apart;
* `normalize_relative`, `normalize_absolute` — what both forms come to;
* `AgreesAt`, `agreesAt_of_ofUrl` — how their outcomes are related.
-/

namespace SyncedFile

namespace Origin

/-- The scheme of remote files at an origin. -/
def remoteScheme (origin : Origin) : Text :=
  if origin.scheme = "https" then Locator.secureScheme else Locator.plainScheme

/-- The address of a path at an origin. -/
def addressOf (origin : Origin) (path : Text) : Text :=
  origin.remoteScheme ++ "://" ++ origin.host ++ path

/-- The host is made of letters, digits, dots and hyphens. Beyond ASCII no character is told from a
letter here. -/
def HasPlainHost (origin : Origin) : Prop :=
  ∀ c ∈ origin.host, c.isAlphanum ∨ c = '.' ∨ c = '-' ∨ 0x80 ≤ c.toNat

theorem isSecure_iff {url : Text} {origin : Origin} (given : ofUrl (.text url) = .ok origin) :
    origin.isSecure = true ↔ origin.scheme = "https" := by
  obtain ⟨uri, read, -, nonempty, scheme, octets⟩ := ofText_eq_ok (ofText_of_ofUrl given)
  have lowered : Text.lower origin.scheme = origin.scheme := by
    obtain ⟨-, -, rfl⟩ := Uri.split_eq_ok_iff.1 read
    obtain ⟨-, chars, lowered⟩ := (Locator.splitScheme_cases (Uri.clean url)).resolve_left nonempty
    rw [scheme]
    exact Locator.lower_of_isSchemeChar chars lowered
  rw [isSecure, octets, lowered]
  simp

theorem isScheme_remoteScheme (origin : Origin) : Locator.IsScheme origin.remoteScheme := by
  rw [remoteScheme]
  split
  · exact Locator.isScheme_secureScheme
  · exact Locator.isScheme_plainScheme

theorem schemeFor_nil {url : Text} {origin : Origin} (given : ofUrl (.text url) = .ok origin) :
    Locator.schemeFor [] (some origin) = origin.remoteScheme := by
  rw [Locator.schemeFor, if_pos rfl, remoteScheme]
  simp only [Option.any_some, isSecure_iff given]

end Origin

namespace Locator

/-! ## Taking both forms apart -/

variable {origin : Origin} {url path rest host scheme : Text}

/-- A host that holds none of the marks of an authority, nor characters that no URI holds. -/
structure IsBare (host : Text) : Prop where
  isHost : Uri.IsHost host
  chars : IsUriText host
  marks : ∀ c ∈ ['/', '?', '#', '@', '[', ']', ':'], c ∉ host

theorem isBare_of_hasPlainHost (isHost : Uri.IsHost origin.host) (plain : origin.HasPlainHost)
    (ascii : Text.IsAscii origin.host) : IsBare origin.host := by
  have form {c : Char} (mem : c ∈ origin.host) : c.isAlphanum ∨ c = '.' ∨ c = '-' := by
    have small := ascii c mem
    rcases plain c mem with letter | dot | hyphen | beyond
    · exact .inl letter
    · exact .inr (.inl dot)
    · exact .inr (.inr hyphen)
    · omega
  have others : ∀ d ∈ ['/', '?', '#', '@', '[', ']', ':'],
      d.isAlphanum = false ∧ d ≠ '.' ∧ d ≠ '-' := by decide
  refine ⟨isHost, fun c mem => ?_, fun d mark mem => ?_⟩
  · rcases form mem with letter | rfl | rfl
    · rw [isUriChar, letter, Bool.true_or]
    · decide
    · decide
  · obtain ⟨letter, dot, hyphen⟩ := others d mark
    rcases form mem with yes | yes | yes
    · rw [letter] at yes
      cases yes
    · exact dot yes
    · exact hyphen yes

namespace IsBare

theorem hostAndPort_eq (bare : IsBare host) : Uri.hostAndPort host = (host, []) := by
  have info : Uri.hostInfo host = host := by
    rw [Uri.hostInfo, Text.cutLast_of_notMem (bare.marks '@' (by decide))]
  simp only [Uri.hostAndPort, info, Text.cut_of_notMem (bare.marks '[' (by decide)),
    Text.cut_of_notMem (bare.marks ':' (by decide)), Option.getD_none]

variable {uri : Uri}

theorem host?_eq_some (bare : IsBare host) (authority : uri.authority = host) :
    uri.host? = some host := by
  rw [Uri.host?_eq, authority, bare.hostAndPort_eq, if_neg bare.isHost.ne_nil,
    bare.isHost.lowerHost_eq bare.chars.isAscii]

theorem port?_eq_none (bare : IsBare host) (authority : uri.authority = host) :
    uri.port? = .ok none := by
  simp only [Uri.port?, authority, bare.hostAndPort_eq, if_pos]

theorem userinfo?_eq_none (bare : IsBare host) (authority : uri.authority = host) :
    uri.userinfo? = none := by
  simp only [Uri.userinfo?, authority, Text.cutLast_of_notMem (bare.marks '@' (by decide))]

end IsBare

theorem split_relative (chars : IsUriText ('/' :: rest)) (single : rest.head? ≠ some '/') :
    Uri.split ('/' :: rest) = .ok (Uri.ofParts [] [] ('/' :: rest)) := by
  have noAuthority : Uri.splitAuthority ('/' :: rest) = ([], '/' :: rest) := by
    unfold Uri.splitAuthority
    split
    · next more eq =>
      rw [(List.cons.inj eq).2] at single
      exact absurd rfl single
    · rfl
  rw [Uri.split_eq_ok_iff, clean_of_isUriText chars, splitScheme_slash, noAuthority]
  exact ⟨rfl, rfl, rfl⟩

theorem split_absolute (isScheme : IsScheme scheme) (bare : IsBare host)
    (chars : IsUriText ('/' :: rest)) :
    Uri.split (scheme ++ "://" ++ host ++ '/' :: rest) =
      .ok (Uri.ofParts scheme host ('/' :: rest)) := by
  have whole : scheme ++ "://".toList ++ host ++ '/' :: rest =
      scheme ++ ':' :: '/' :: '/' :: (host ++ '/' :: rest) := by simp
  have allowed : IsUriText (scheme ++ ':' :: '/' :: '/' :: (host ++ '/' :: rest)) := by
    refine Parts.isUriText_append (isUriText_of_isSchemeChar isScheme.chars) ?_
    refine Parts.isUriText_cons (by decide) (Parts.isUriText_cons (by decide) ?_)
    exact Parts.isUriText_cons (by decide) (Parts.isUriText_append bare.chars chars)
  have authority : Uri.splitAuthority ('/' :: '/' :: (host ++ '/' :: rest)) =
      (host, '/' :: rest) := by
    apply Text.spanUntil_append
    · intro c mem ends
      have marks : ∀ d ∈ ['/', '?', '#'], d ∈ ['/', '?', '#', '@', '[', ']', ':'] := by decide
      exact bare.marks c (marks c ends) mem
    · rintro c ⟨⟩
      exact List.mem_cons_self
  have brackets : Uri.checkBrackets host = .ok () :=
    if_pos ⟨bare.marks '[' (by decide), bare.marks ']' (by decide)⟩
  rw [whole, Uri.split_eq_ok_iff, clean_of_isUriText allowed, isScheme.splitScheme_append,
    authority]
  exact ⟨brackets, Uri.hidesDelimiter_of_isAscii bare.chars.isAscii, rfl⟩

/-! ## Line breaks and paths -/

theorem dropFinal_slash (t : Text) :
    Text.dropFinal '\n' ('/' :: t) = '/' :: Text.dropFinal '\n' t :=
  Text.dropFinal_append (t := ['/']) (by decide) t

theorem hasUriChars_slash_iff :
    hasUriChars ('/' :: path) = true ↔ IsUriText ('/' :: Text.dropFinal '\n' path) := by
  simp only [hasUriChars, dropFinal_slash, List.isEmpty_cons, Bool.not_false, Bool.true_and,
    List.all_eq_true]
  exact Iff.rfl

theorem hasUriChars_append_of_foreign {front : Text} {c : Char} (mem : c ∈ front)
    (foreign : isUriChar c = false) (noBreak : '\n' ∉ front) (path : Text) :
    hasUriChars (front ++ path) = false := by
  rw [hasUriChars, Text.dropFinal_append noBreak]
  simp only [Bool.and_eq_false_iff, List.all_append]
  refine .inr (.inl (List.all_eq_false.2 ⟨c, mem, ?_⟩))
  rw [foreign]
  decide

/-- A text without the marks of a query and a fragment stands at the beginning of the path. -/
theorem ofParts_append (front : Text) (noHash : '#' ∉ front) (noQuestion : '?' ∉ front)
    (scheme authority rest : Text) :
    Uri.ofParts scheme authority (front ++ rest) =
      { Uri.ofParts scheme authority rest with
        path := front ++ (Uri.ofParts scheme authority rest).path } := by
  simp only [Uri.ofParts, Text.cut_append noHash, Text.cut_append noQuestion]

theorem prefix_path_ofParts (scheme authority rest : Text) :
    (Uri.ofParts scheme authority rest).path <+: rest := by
  have taken (sep : Char) (t : Text) : (Text.cut sep t).1 <+: t := by
    rcases Text.cut_cases sep t with ⟨-, eq⟩ | ⟨before, after, rfl, -, eq⟩
    · exact ⟨[], by rw [eq, List.append_nil]⟩
    · exact ⟨sep :: after, by rw [eq]⟩
  exact (taken '?' _).trans (taken '#' _)

theorem dropHost_eq_self {segments : List Text}
    (other : ∀ second more, segments ≠ host :: second :: more) :
    dropHost host segments = segments := by
  unfold dropHost
  split
  · next first second more =>
    refine if_neg fun same => ?_
    exact other second more (same ▸ rfl)
  · rfl

/-- The path after a first slash: up to a query, a fragment or a line break at the end. -/
def pathAfter (t : Text) : Text :=
  (Uri.ofParts [] [] (Text.dropFinal '\n' t)).path

theorem path_ofParts_slash (scheme authority t : Text) :
    (Uri.ofParts scheme authority ('/' :: Text.dropFinal '\n' t)).path = '/' :: pathAfter t :=
  congrArg Uri.path (ofParts_append ['/'] (by decide) (by decide) scheme authority _)

theorem prefix_pathAfter (t : Text) : pathAfter t <+: t := by
  refine (prefix_path_ofParts _ _ _).trans ?_
  rcases Text.dropFinal_cases '\n' t with broken | whole
  · exact ⟨_, broken.symm⟩
  · exact ⟨[], by rw [whole, List.append_nil]⟩

theorem pathAfter_append_slash {front : Text} (noBreak : '\n' ∉ front) (noHash : '#' ∉ front)
    (noQuestion : '?' ∉ front) (t : Text) :
    pathAfter (front ++ '/' :: t) = front ++ '/' :: pathAfter t := by
  rw [pathAfter, Text.dropFinal_append noBreak, dropFinal_slash,
    ofParts_append front noHash noQuestion, path_ofParts_slash]

theorem pathSegments_slash (scheme authority t : Text) :
    pathSegments (Uri.ofParts scheme authority ('/' :: Text.dropFinal '\n' t)) =
      Text.splitOn '/' (pathAfter t) := by
  simp only [pathSegments, path_ofParts_slash, List.head?_cons, if_true, List.tail_cons]

theorem segmentsFor_relative (t host : Text) :
    segmentsFor (Uri.ofParts [] [] ('/' :: Text.dropFinal '\n' t)) host =
      dropHost host (Text.splitOn '/' (pathAfter t)) := by
  rw [segmentsFor, pathSegments_slash]
  exact if_pos rfl

theorem segmentsFor_absolute (nonempty : host ≠ []) (scheme t : Text) :
    segmentsFor (Uri.ofParts scheme host ('/' :: Text.dropFinal '\n' t)) host =
      Text.splitOn '/' (pathAfter t) := by
  rw [segmentsFor, pathSegments_slash]
  exact if_neg nonempty

theorem normalize_relative (given : Origin.ofUrl (.text url) = .ok origin)
    (chars : hasUriChars ('/' :: path) = true) (single : path.head? ≠ some '/') :
    normalize (.text ('/' :: path)) (some origin) =
      if pathAfter path = [] then .error (.failure (.malformed (.text ('/' :: path)) .withoutPath))
      else (assemble ('/' :: path) (Uri.ofParts [] [] ('/' :: Text.dropFinal '\n' path)) none
        (some origin) origin.host).mapError .failure := by
  have rooted := path_ofParts_slash [] [] path
  have notDouble : (Text.dropFinal '\n' path).head? ≠ some '/' := by
    rcases Text.dropFinal_cases '\n' path with broken | whole
    · intro double
      rw [broken, List.head?_append, double] at single
      exact single rfl
    · rwa [whole]
  have read := split_relative (hasUriChars_slash_iff.1 chars) notDouble
  rw [← dropFinal_slash, Uri.split_dropFinal, dropFinal_slash] at read
  have inText : ∀ o ∈ some origin, o.inOctets = false := by
    rintro o ⟨⟩
    exact Origin.inOctets_of_ofUrl_text given
  have outcome := normalize_of_split (needsOctets_of_inText inText _) chars read rfl
    (by rw [rooted]; rfl) (fun missing => by cases missing)
  rw [outcome, rooted]
  simp only [List.cons.injEq, true_and]
  rfl

theorem isUriText_front (isScheme : IsScheme scheme) (bare : IsBare host) :
    IsUriText (scheme ++ "://" ++ host) :=
  Parts.isUriText_append (Parts.isUriText_append (isUriText_of_isSchemeChar isScheme.chars)
    (by unfold IsUriText; decide)) bare.chars

theorem normalize_absolute (isScheme : IsScheme scheme) (bare : IsBare host)
    (chars : hasUriChars ('/' :: path) = true) :
    normalize (.text (scheme ++ "://" ++ host ++ '/' :: path)) none =
      if pathAfter path = [] then
        .error (.failure (.malformed (.text (scheme ++ "://" ++ host ++ '/' :: path)) .withoutPath))
      else (assemble (scheme ++ "://" ++ host ++ '/' :: path)
        (Uri.ofParts scheme host ('/' :: Text.dropFinal '\n' path)) none none
        host).mapError .failure := by
  have rooted := path_ofParts_slash scheme host path
  have front := isUriText_front isScheme bare
  have read := split_absolute isScheme bare (hasUriChars_slash_iff.1 chars)
  rw [← dropFinal_slash, ← Text.dropFinal_append front.notMem_lineBreak, Uri.split_dropFinal,
    dropFinal_slash] at read
  have allowed := (hasUriChars_append_cons front (by decide) path).trans chars
  have named : (Uri.ofParts scheme host ('/' :: Text.dropFinal '\n' path)).host? = some host :=
    bare.host?_eq_some rfl
  have present : (Uri.ofParts scheme host ('/' :: Text.dropFinal '\n' path)).host? ≠ none := by
    rw [named]
    exact nofun
  have outcome := normalize_of_split (needsOctets_of_host present none) allowed read
    (bare.port?_eq_none rfl) (by rw [rooted]; rfl) (fun _ => ⟨isScheme.ne_nil, present⟩)
  rw [outcome, rooted, hostFor, named]
  simp only [List.cons.injEq, true_and, Option.getD_some]

theorem normalize_addressOf (bare : IsBare origin.host)
    (chars : hasUriChars ('/' :: path) = true) :
    normalize (.text (origin.addressOf ('/' :: path))) none =
      if pathAfter path = [] then
        .error (.failure (.malformed (.text (origin.addressOf ('/' :: path))) .withoutPath))
      else (assemble (origin.addressOf ('/' :: path))
        (Uri.ofParts origin.remoteScheme origin.host ('/' :: Text.dropFinal '\n' path)) none none
        origin.host).mapError .failure :=
  normalize_absolute origin.isScheme_remoteScheme bare chars

theorem normalize_addressOf_of_foreign (bare : IsBare origin.host)
    (refused : hasUriChars ('/' :: path) = false) :
    normalize (.text (origin.addressOf ('/' :: path))) none =
      .error (.failure (.malformed (.text (origin.addressOf ('/' :: path))) .forbiddenCharacter)) := by
  have front := isUriText_front origin.isScheme_remoteScheme bare
  have nonempty : origin.addressOf ('/' :: path) ≠ [] :=
    List.append_ne_nil_of_right_ne_nil _ (List.cons_ne_nil _ _)
  exact normalize_of_foreign nonempty
    ((hasUriChars_append_cons front (by decide) path).trans refused) none

/-- A character that no URI holds is found in both forms. -/
theorem outcome_of_foreign_path (bare : IsBare origin.host)
    (alike : hasUriChars ('/' :: path) = hasUriChars ('/' :: rest))
    (refused : hasUriChars ('/' :: rest) = false) :
    outcome ('/' :: path) (some origin) = outcome (origin.addressOf ('/' :: rest)) none := by
  rw [outcome_of_foreign (List.cons_ne_nil _ _) (alike.trans refused), outcome,
    normalize_addressOf_of_foreign bare refused]
  rfl

/-! ## Both forms -/

/-- How the outcome of a path that is relative to an origin is related to those of addresses. -/
structure AgreesAt (origin : Origin) (path : Text) : Prop where
  /-- Without the host as a first segment, both forms come to the same. -/
  same : Text.IsAscii origin.host → ¬origin.host ++ ['/'] <+: path →
    outcome ('/' :: path) (some origin) = outcome (origin.addressOf ('/' :: path)) none
  /-- A first segment that names the host is dropped. -/
  dropped : Text.IsAscii origin.host → ∀ rest, path = origin.host ++ '/' :: rest →
    normalize (.text (origin.addressOf ('/' :: rest))) none ≠
      .error (.failure (.malformed (.text (origin.addressOf ('/' :: rest))) .withoutPath)) →
    outcome ('/' :: path) (some origin) = outcome (origin.addressOf ('/' :: rest)) none
  /-- Where nothing is left after it, the relative form has an empty segment. -/
  emptied : Text.IsAscii origin.host → ∀ rest, path = origin.host ++ '/' :: rest →
    normalize (.text (origin.addressOf ('/' :: rest))) none =
      .error (.failure (.malformed (.text (origin.addressOf ('/' :: rest))) .withoutPath)) →
    outcome ('/' :: path) (some origin) = .error (some .invalidCharacter)
  /-- No address holds letters beyond ASCII. -/
  foreign : ¬Text.IsAscii origin.host →
    normalize (.text (origin.addressOf ('/' :: path))) none =
      .error (.failure (.malformed (.text (origin.addressOf ('/' :: path))) .forbiddenCharacter))

/-- The parts of both forms are the same if their segments, queries and fragments are. -/
theorem ofUri_relative_eq (given : Origin.ofUrl (.text url) = .ok origin)
    (bare : IsBare origin.host) {left right : Text}
    (segments : segmentsFor (Uri.ofParts [] [] left) origin.host =
      segmentsFor (Uri.ofParts origin.remoteScheme origin.host right) origin.host)
    (query : (Uri.ofParts [] [] left).query = (Uri.ofParts [] [] right).query)
    (fragment : (Uri.ofParts [] [] left).fragment = (Uri.ofParts [] [] right).fragment) :
    Parts.ofUri (Uri.ofParts [] [] left) none (some origin) origin.host =
      Parts.ofUri (Uri.ofParts origin.remoteScheme origin.host right) none none origin.host := by
  have scheme : schemeFor [] (some origin) = schemeFor origin.remoteScheme none := by
    rw [Origin.schemeFor_nil given, origin.isScheme_remoteScheme.kept]
  have userinfo : (Uri.ofParts origin.remoteScheme origin.host right).userinfo? = none :=
    bare.userinfo?_eq_none rfl
  simp only [Parts.ofUri, Parts.mk.injEq, true_and, segments, userinfo]
  exact ⟨scheme, query, fragment, rfl⟩

theorem outcome_same (given : Origin.ofUrl (.text url) = .ok origin) (bare : IsBare origin.host)
    (single : path.head? ≠ some '/') (other : ¬origin.host ++ ['/'] <+: path) :
    outcome ('/' :: path) (some origin) = outcome (origin.addressOf ('/' :: path)) none := by
  cases chars : hasUriChars ('/' :: path) with
  | false => exact outcome_of_foreign_path bare rfl chars
  | true =>
    rw [outcome, outcome, normalize_relative given chars single, normalize_addressOf bare chars]
    split
    · rfl
    · apply kind_assemble
      apply ofUri_relative_eq given bare _ rfl rfl
      rw [segmentsFor_relative, segmentsFor_absolute bare.isHost.ne_nil]
      -- A host that is dropped would stand at the beginning of the path, with a slash after it.
      refine dropHost_eq_self fun second more pieces => other ?_
      have joined := Text.joinWith_splitOn '/' (pathAfter path)
      rw [pieces, Text.joinWith] at joined
      have first : origin.host ++ ['/'] <+: pathAfter path := ⟨_, joined⟩
      exact first.trans (prefix_pathAfter path)

theorem segmentsFor_dropped (bare : IsBare origin.host) (rest : Text) :
    segmentsFor (Uri.ofParts [] [] ('/' :: Text.dropFinal '\n' (origin.host ++ '/' :: rest)))
      origin.host = Text.splitOn '/' (pathAfter rest) := by
  have noSlash : '/' ∉ origin.host := bare.marks '/' (by decide)
  rw [segmentsFor_relative, pathAfter_append_slash bare.chars.notMem_lineBreak
    (bare.marks '#' (by decide)) (bare.marks '?' (by decide)), Text.splitOn_append_cons noSlash]
  obtain ⟨first, more, pieces⟩ := List.exists_cons_of_ne_nil
    (Text.splitOn_ne_nil '/' (pathAfter rest))
  rw [pieces]
  exact if_pos rfl

theorem hasUriChars_dropped (bare : IsBare origin.host) (rest : Text) :
    hasUriChars ('/' :: (origin.host ++ '/' :: rest)) = hasUriChars ('/' :: rest) :=
  hasUriChars_append_cons (Parts.isUriText_cons (by decide) bare.chars) (by decide) rest

theorem normalize_dropped (given : Origin.ofUrl (.text url) = .ok origin)
    (bare : IsBare origin.host)
    (single : (origin.host ++ '/' :: rest).head? ≠ some '/')
    (chars : hasUriChars ('/' :: rest) = true) :
    normalize (.text ('/' :: (origin.host ++ '/' :: rest))) (some origin) =
      (assemble ('/' :: (origin.host ++ '/' :: rest))
        (Uri.ofParts [] [] ('/' :: Text.dropFinal '\n' (origin.host ++ '/' :: rest))) none
        (some origin) origin.host).mapError .failure := by
  have filled : pathAfter (origin.host ++ '/' :: rest) ≠ [] := by
    rw [pathAfter_append_slash bare.chars.notMem_lineBreak (bare.marks '#' (by decide))
      (bare.marks '?' (by decide))]
    exact List.append_ne_nil_of_right_ne_nil _ (List.cons_ne_nil _ _)
  rw [normalize_relative given ((hasUriChars_dropped bare rest).trans chars) single,
    if_neg filled]

theorem outcome_dropped (given : Origin.ofUrl (.text url) = .ok origin)
    (bare : IsBare origin.host) (single : (origin.host ++ '/' :: rest).head? ≠ some '/')
    (led : normalize (.text (origin.addressOf ('/' :: rest))) none ≠
      .error (.failure (.malformed (.text (origin.addressOf ('/' :: rest))) .withoutPath))) :
    outcome ('/' :: (origin.host ++ '/' :: rest)) (some origin) =
      outcome (origin.addressOf ('/' :: rest)) none := by
  cases chars : hasUriChars ('/' :: rest) with
  | false => exact outcome_of_foreign_path bare (hasUriChars_dropped bare rest) chars
  | true =>
    rw [normalize_addressOf bare chars] at led
    rw [outcome, outcome, normalize_dropped given bare single chars,
      normalize_addressOf bare chars]
    split
    · next empty => exact absurd (if_pos empty) led
    · apply kind_assemble
      have parts := ofParts_append ('/' :: origin.host) (by simpa using bare.marks '#' (by decide))
        (by simpa using bare.marks '?' (by decide)) [] [] ('/' :: Text.dropFinal '\n' rest)
      have dropped : Text.dropFinal '\n' (origin.host ++ '/' :: rest) =
          origin.host ++ '/' :: Text.dropFinal '\n' rest := by
        rw [Text.dropFinal_append bare.chars.notMem_lineBreak, dropFinal_slash]
      refine ofUri_relative_eq given bare ?_ ?_ ?_
      · rw [segmentsFor_dropped bare, segmentsFor_absolute bare.isHost.ne_nil]
      · rw [dropped]
        exact (congrArg Uri.query parts).trans rfl
      · rw [dropped]
        exact (congrArg Uri.fragment parts).trans rfl

theorem outcome_emptied (given : Origin.ofUrl (.text url) = .ok origin)
    (bare : IsBare origin.host)
    (single : (origin.host ++ '/' :: rest).head? ≠ some '/')
    (empty : normalize (.text (origin.addressOf ('/' :: rest))) none =
      .error (.failure (.malformed (.text (origin.addressOf ('/' :: rest))) .withoutPath))) :
    outcome ('/' :: (origin.host ++ '/' :: rest)) (some origin) =
      .error (some .invalidCharacter) := by
  cases chars : hasUriChars ('/' :: rest) with
  | false =>
    rw [normalize_addressOf_of_foreign bare chars] at empty
    cases empty
  | true =>
    rw [normalize_addressOf bare chars] at empty
    split at empty
    · next nothing =>
      have segments : segmentsFor
          (Uri.ofParts [] [] ('/' :: Text.dropFinal '\n' (origin.host ++ '/' :: rest)))
          origin.host = [[]] := (segmentsFor_dropped bare rest).trans (by rw [nothing]; rfl)
      rw [outcome, normalize_dropped given bare single chars, assemble_eq_checked]
      exact kind_of_empty segments _
    · rw [assemble_eq_checked, Fault.mapError_failure_eq_error] at empty
      -- The checks of a path do not find that there is none.
      have other : FailureKind.malformedLocator ∉ pathKinds := by decide
      exact absurd (kind_mem_of_checked empty) other

theorem normalize_foreign (plain : origin.HasPlainHost) (beyond : ¬Text.IsAscii origin.host)
    (path : Text) :
    normalize (.text (origin.addressOf ('/' :: path))) none =
      .error (.failure (.malformed (.text (origin.addressOf ('/' :: path))) .forbiddenCharacter)) := by
  obtain ⟨c, mem, large⟩ : ∃ c ∈ origin.host, 0x80 ≤ c.toNat := by
    simpa [Text.IsAscii] using beyond
  have refused : isUriChar c = false := by
    cases allowed : isUriChar c with
    | false => rfl
    | true => exact absurd (toNat_of_isUriChar allowed).2 (Nat.not_lt.2 large)
  have noBreak : '\n' ∉ origin.remoteScheme ++ "://" ++ origin.host := by
    have scheme := (isUriText_of_isSchemeChar origin.isScheme_remoteScheme.chars).notMem_lineBreak
    have host : '\n' ∉ origin.host := fun inHost => absurd (plain '\n' inHost) (by decide)
    simp only [List.mem_append, not_or]
    exact ⟨⟨scheme, by decide⟩, host⟩
  apply normalize_of_foreign
  · exact List.append_ne_nil_of_right_ne_nil _ (List.cons_ne_nil _ _)
  · exact hasUriChars_append_of_foreign (List.mem_append_right _ mem) refused noBreak _

/-- Relative and absolute identifiers come to the same at an origin with a plain host, except that
a relative path loses a first segment that names the host. -/
theorem agreesAt_of_ofUrl (given : Origin.ofUrl (.text url) = .ok origin)
    (plain : origin.HasPlainHost) (single : path.head? ≠ some '/') : AgreesAt origin path := by
  have isHost := Origin.isHost_of_ofUrl given
  have bare := isBare_of_hasPlainHost isHost plain
  refine {
    same := fun ascii other => outcome_same given (bare ascii) single other
    dropped := ?_
    emptied := ?_
    foreign := fun beyond => ?_ }
  · rintro ascii rest rfl led
    exact outcome_dropped given (bare ascii) single led
  · rintro ascii rest rfl empty
    exact outcome_emptied given (bare ascii) single empty
  · exact normalize_foreign plain beyond path

/-- The usual form of a path at an origin stands for its absolute form. -/
theorem outcome_of_web_origin :
    ∃ origin, Origin.ofUrl (.text "https://auth.example.com/auth") = .ok origin ∧
      outcome "/~/default?full" (some origin) =
        outcome "realms://auth.example.com/~/default?full" none := by
  refine ⟨⟨"https", "auth.example.com", false⟩, rfl, ?_⟩
  have agrees : AgreesAt ⟨"https", "auth.example.com", false⟩ "~/default?full" :=
    agreesAt_of_ofUrl (show Origin.ofUrl (.text "https://auth.example.com/auth") = _ from rfl)
      (by unfold Origin.HasPlainHost; decide) (by decide)
  exact agrees.same (by unfold Text.IsAscii; decide) (by decide)

/-- A path that begins with the host is not the path of the address. -/
theorem outcome_ne_of_host_first :
    ∃ origin, Origin.ofUrl (.text "https://auth.example.com/auth") = .ok origin ∧
      origin.HasPlainHost ∧
      outcome "/auth.example.com/x" (some origin) ≠
        outcome (origin.addressOf "/auth.example.com/x") none := by
  refine ⟨⟨"https", "auth.example.com", false⟩, rfl, by unfold Origin.HasPlainHost; decide, ?_⟩
  have relative : outcome "/auth.example.com/x" (some ⟨"https", "auth.example.com", false⟩) =
      .ok {
        scheme := .text "realms"
        host := "auth.example.com"
        path := ["x"]
        path_ne_nil := List.cons_ne_nil _ _ } := rfl
  have absolute : outcome (Origin.addressOf ⟨"https", "auth.example.com", false⟩
      "/auth.example.com/x") none =
      .ok {
        scheme := .text "realms"
        host := "auth.example.com"
        path := ["auth.example.com", "x"]
        path_ne_nil := List.cons_ne_nil _ _ } := rfl
  rw [relative, absolute]
  intro same
  exact absurd (congrArg Locator.path (Except.ok.inj same)) (by decide)

end Locator
end SyncedFile
