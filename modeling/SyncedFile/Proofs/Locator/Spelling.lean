import SyncedFile.Proofs.Locator.Outcome

/-!
# Spellings of one identifier

Web schemes and remote schemes mean the same, and neither schemes nor hosts are told apart by letter
case. Identifiers that differ in nothing else come to the same: equal locators, or one failure that
shows the one identifier or the other.

* `ComeToSame` — two identifiers come to the same;
* `Alike`, `comeToSame_of_readAlike` — what normalising reads in a URI;
* `RecasesHost` — identifiers that differ only in the letter case of the host, up to a zone;
* `spellingIsFree` — both freedoms, for every identifier and every origin.
-/

namespace SyncedFile.Locator

variable {origin : Option Origin} {left right : Text}

/-- Both identifiers give equal locators, or fail with one failure that shows the one identifier or
the other. -/
def ComeToSame (origin : Option Origin) (left right : Text) : Prop :=
  normalize (.text right) origin =
    (normalize (.text left) origin).mapError (Fault.about (.text right))

/-! ## What normalising reads in a URI -/

/-- Two URIs differ in nothing that normalising reads. -/
structure Alike (origin : Option Origin) (uri other : Uri) : Prop where
  schemeFor_eq : schemeFor uri.scheme origin = schemeFor other.scheme origin
  scheme_eq_nil_iff : uri.scheme = [] ↔ other.scheme = []
  authority_eq_nil_iff : uri.authority = [] ↔ other.authority = []
  host?_eq : uri.host? = other.host?
  port?_eq : uri.port? = other.port?
  userinfo?_eq : uri.userinfo? = other.userinfo?
  path_eq : uri.path = other.path
  query_eq : uri.query = other.query
  fragment_eq : uri.fragment = other.fragment

/-- Reading two identifiers gives URIs that are alike, or fails in one way. -/
inductive ReadAlike (origin : Option Origin) : Except Uri.Fault Uri → Except Uri.Fault Uri → Prop
  | refused (fault : Uri.Fault) : ReadAlike origin (.error fault) (.error fault)
  | read {uri other : Uri} (alike : Alike origin uri other) : ReadAlike origin (.ok uri) (.ok other)

theorem Alike.ofUri_eq {uri other : Uri} (alike : Alike origin uri other) (port : Option Nat)
    (host : Text) : Parts.ofUri uri port origin host = Parts.ofUri other port origin host := by
  have segments : segmentsFor uri host = segmentsFor other host := by
    simp only [segmentsFor, pathSegments, alike.path_eq, alike.authority_eq_nil_iff]
  simp only [Parts.ofUri, alike.schemeFor_eq, segments, alike.query_eq, alike.fragment_eq,
    alike.userinfo?_eq]

/-- All that normalising takes from an identifier is which characters it holds and how it reads. -/
theorem comeToSame_of_readAlike (empty : left = [] ↔ right = [])
    (chars : hasUriChars left = hasUriChars right)
    (read : hasUriChars left = true → ReadAlike origin (Uri.split left) (Uri.split right)) :
    ComeToSame origin left right := by
  by_cases nil : left = []
  · obtain rfl := empty.1 nil
    rw [nil]
    rfl
  · rw [ComeToSame, normalize_text nil, normalize_text (mt empty.2 nil), normalizeText,
      normalizeText, ← chars]
    cases allowed : hasUriChars left with
    | false => rfl
    | true =>
      replace read := read allowed
      -- Only the two results of reading are compared from here on, not the identifiers.
      simp only [Bool.not_true, Bool.false_eq_true, if_false, readUri, bind, Except.bind]
      generalize Uri.split left = leftRead at read ⊢
      generalize Uri.split right = rightRead at read ⊢
      cases read with
      | refused fault => rfl
      | @read uri other alike =>
        simp only [alike.port?_eq]
        cases other.port? with
        | error fault => rfl
        | ok port =>
          have octets : needsOctets uri origin = needsOctets other origin := by
            rw [needsOctets, needsOctets, alike.host?_eq]
          simp only [pure, Except.pure, ne_eq, alike.scheme_eq_nil_iff, alike.authority_eq_nil_iff,
            alike.path_eq, alike.host?_eq, octets]
          -- The checks of a path show the identifier where they fail.
          split
          · rfl
          · split
            · rfl
            · split
              · rfl
              · split
                · exact congrArg Except.error (faultInOctets_about alike.path_eq left right)
                · rw [assemble_about (alike.ofUri_eq port _) left right]
                  cases assemble left uri port origin _ <;> rfl

/-! ## Spellings of a scheme -/

theorem splitScheme_clean_append {scheme : Text} (form : hasSchemeForm scheme = true)
    (rest : Text) :
    Uri.splitScheme (Uri.clean (scheme ++ ':' :: rest)) =
      (scheme.map Char.toLower, rest.filter (· ∉ ['\t', '\r', '\n'])) := by
  have front : IsUriText (scheme ++ [':']) :=
    Parts.isUriText_append (isUriText_of_hasSchemeForm form)
      (Parts.isUriText_cons (by decide) (List.forall_mem_nil _))
  have cleaned := clean_append front (List.concat_ne_nil ':' scheme) rest
  rw [List.append_assoc, List.append_assoc] at cleaned
  rw [← List.singleton_append, cleaned]
  exact splitScheme_append_cons form _

/-- Where schemes mean the same, what follows them reads the same, or fails in the same way. -/
theorem readAlike_of_schemes
    (rest : (Uri.splitScheme (Uri.clean left)).2 = (Uri.splitScheme (Uri.clean right)).2)
    (mean : schemeFor (Uri.splitScheme (Uri.clean left)).1 origin =
      schemeFor (Uri.splitScheme (Uri.clean right)).1 origin)
    (given : (Uri.splitScheme (Uri.clean left)).1 = [] ↔
      (Uri.splitScheme (Uri.clean right)).1 = []) :
    ReadAlike origin (Uri.split left) (Uri.split right) := by
  simp only [Uri.split, bind, Except.bind, rest]
  split
  · exact .refused _
  · split
    · exact .refused _
    · exact .read ⟨mean, given, .rfl, rfl, rfl, rfl, rfl, rfl, rfl⟩

theorem comeToSame_of_schemes (leftForm : hasSchemeForm left = true)
    (rightForm : hasSchemeForm right = true)
    (mean : schemeFor (left.map Char.toLower) origin = schemeFor (right.map Char.toLower) origin)
    (rest : Text) : ComeToSame origin (left ++ ':' :: rest) (right ++ ':' :: rest) := by
  have chars {t : Text} (form : hasSchemeForm t = true) :
      hasUriChars (t ++ ':' :: rest) = hasUriChars (':' :: rest) :=
    hasUriChars_append_cons (isUriText_of_hasSchemeForm form) (by decide) rest
  have nonempty {t : Text} (form : hasSchemeForm t = true) : t.map Char.toLower ≠ [] := by
    rintro nil
    rw [List.map_eq_nil_iff.1 nil] at form
    cases form
  apply comeToSame_of_readAlike
  · simp
  · rw [chars leftForm, chars rightForm]
  · intro _
    have leftRead := splitScheme_clean_append leftForm rest
    have rightRead := splitScheme_clean_append rightForm rest
    apply readAlike_of_schemes <;> rw [leftRead, rightRead]
    · exact mean
    · exact iff_of_false (nonempty leftForm) (nonempty rightForm)

/-- The names of a scheme: that of the web and the one that it stands for. -/
def schemeNames : List (List Text) :=
  [["http", "realm"], ["https", "realms"]]

theorem comeToSame_of_schemeNames {names : List Text} (known : names ∈ schemeNames)
    (leftName : left.map Char.toLower ∈ names) (rightName : right.map Char.toLower ∈ names)
    (rest : Text) : ComeToSame origin (left ++ ':' :: rest) (right ++ ':' :: rest) := by
  have forms : ∀ names ∈ schemeNames, ∀ name ∈ names, hasSchemeForm name = true := by decide
  have form {t : Text} (name : t.map Char.toLower ∈ names) : hasSchemeForm t = true :=
    (hasSchemeForm_map_toLower t).symm.trans (forms names known _ name)
  -- Both names of a list mean one scheme, so that it does not matter which of them stands where.
  have pair {first second scheme : Text} (h : schemeFor first origin = scheme)
      (h' : schemeFor second origin = scheme) :
      ∃ scheme, ∀ name ∈ [first, second], schemeFor name origin = scheme :=
    ⟨scheme, List.forall_mem_cons.2 ⟨h, List.forall_mem_singleton.2 h'⟩⟩
  have meaning : ∀ names ∈ schemeNames, ∃ scheme, ∀ name ∈ names, schemeFor name origin = scheme :=
    List.forall_mem_cons.2 ⟨pair rfl rfl, List.forall_mem_singleton.2 (pair rfl rfl)⟩
  obtain ⟨scheme, mean⟩ := meaning names known
  refine comeToSame_of_schemes (form leftName) (form rightName) ?_ rest
  rw [mean _ leftName, mean _ rightName]

/-! ## Letter case -/

theorem toLower_eq_iff {c d : Char}
    (kept : ∀ n < 0x80, ((Char.ofNat n).toLower == d) = (Char.ofNat n == d)) :
    c.toLower = d ↔ c = d := by
  have same := Text.apply_toLower (p := (· == d)) kept c
  rw [← beq_iff_eq, same, beq_iff_eq]

theorem mem_map_toLower_iff {t : Text} {d : Char}
    (kept : ∀ n < 0x80, ((Char.ofNat n).toLower == d) = (Char.ofNat n == d)) :
    d ∈ t.map Char.toLower ↔ d ∈ t := by
  simp only [List.mem_map, toLower_eq_iff kept, exists_eq_right]

/-- The marks that tell the parts of an authority apart, and those that end it. -/
def authorityMarks : List Char :=
  ['@', ':', '%', '[', ']', '/', '?', '#']

theorem mark_mem_iff {t other : Text} (letters : t.map Char.toLower = other.map Char.toLower)
    {c : Char} (mark : c ∈ authorityMarks) : c ∈ t ↔ c ∈ other := by
  have kept : ∀ c ∈ authorityMarks, ∀ n < 0x80,
      ((Char.ofNat n).toLower == c) = (Char.ofNat n == c) := by decide +kernel
  rw [← mem_map_toLower_iff (kept c mark), letters, mem_map_toLower_iff (kept c mark)]

theorem eq_nil_iff_of_letters {t other : Text}
    (letters : t.map Char.toLower = other.map Char.toLower) : t = [] ↔ other = [] := by
  rw [← List.map_eq_nil_iff (f := Char.toLower), letters, List.map_eq_nil_iff]

theorem hasUriChars_map_toLower (t : Text) : hasUriChars (t.map Char.toLower) = hasUriChars t := by
  have lineBreak (d : Char) : d.toLower = '\n' ↔ d = '\n' := toLower_eq_iff (by decide)
  have kept : ∀ n < 0x80, isUriChar (Char.ofNat n).toLower = isUriChar (Char.ofNat n) := by
    decide +kernel
  simp only [hasUriChars, Text.dropFinal_map lineBreak, Text.all_map_toLower kept, List.isEmpty_map]

theorem clean_map_toLower (t : Text) :
    Uri.clean (t.map Char.toLower) = (Uri.clean t).map Char.toLower := by
  have blank : (fun c : Char => decide (c.toNat ≤ 0x20)) ∘ Char.toLower =
      fun c => decide (c.toNat ≤ 0x20) :=
    funext (Text.apply_toLower (p := fun c => decide (c.toNat ≤ 0x20)) (by decide))
  have kept : (fun c => decide (c ∉ ['\t', '\r', '\n'])) ∘ Char.toLower =
      fun c => decide (c ∉ ['\t', '\r', '\n']) :=
    funext (Text.apply_toLower (p := fun c => decide (c ∉ ['\t', '\r', '\n'])) (by decide))
  rw [Uri.clean, Uri.clean, List.dropWhile_map, List.filter_map, blank, kept]

/-! ## The place of the host -/

theorem exists_append_splitScheme {t rest : Text} (after : (Uri.splitScheme t).2 = '/' :: rest) :
    ∃ lead, t = lead ++ '/' :: rest ∧
      ∀ other, Uri.splitScheme (lead ++ '/' :: other) = ((Uri.splitScheme t).1, '/' :: other) := by
  rw [Uri.splitScheme] at after ⊢
  rcases Text.cut_cases ':' t with ⟨-, eq⟩ | ⟨scheme, more, rfl, -, eq⟩
  · rw [eq] at after ⊢
    exact ⟨[], after, splitScheme_slash⟩
  · simp only [eq] at after ⊢
    split at after
    · next form =>
      obtain rfl : more = '/' :: rest := after
      refine ⟨scheme ++ [':'], by simp, fun other => ?_⟩
      rw [if_pos form, List.append_assoc]
      exact splitScheme_append_cons form _
    · next shapeless =>
      -- What stands before the colon is no scheme, so that the whole text begins with the slash.
      rw [if_neg shapeless]
      exact ⟨[], after, splitScheme_slash⟩

theorem splitAuthority_append {t : Text} (authority : (Uri.splitAuthority t).1 ≠ []) :
    t = '/' :: '/' :: ((Uri.splitAuthority t).1 ++ (Uri.splitAuthority t).2) ∧
      ∀ other, (∀ c ∈ ['/', '?', '#'], c ∉ other) →
        Uri.splitAuthority ('/' :: '/' :: (other ++ (Uri.splitAuthority t).2)) =
          (other, (Uri.splitAuthority t).2) := by
  unfold Uri.splitAuthority at authority ⊢
  split at authority
  · next rest =>
    refine ⟨by rw [Text.append_spanUntil], fun other bare => ?_⟩
    exact Text.spanUntil_append (fun c mem ends => bare c ends mem) (Text.head_spanUntil _ rest)
  · exact absurd rfl authority

/-- The name of a host as it stands in an authority, without a port and a zone. -/
def hostName (authority : Text) : Text :=
  (Text.cut '%' (Text.cut ':' (Uri.hostInfo authority)).1).1

def hostZone (authority : Text) : Option Text :=
  (Text.cut '%' (Text.cut ':' (Uri.hostInfo authority)).1).2

theorem mem_hostInfo_of_mem_hostName {authority : Text} {c : Char}
    (mem : c ∈ hostName authority) : c ∈ Uri.hostInfo authority :=
  Text.mem_of_mem_cut_fst (Text.mem_of_mem_cut_fst mem)

theorem marks_notMem_hostName (authority : Text) :
    ∀ c ∈ ['@', ':', '%'], c ∉ hostName authority := by
  simp only [List.forall_mem_cons]
  refine ⟨fun mem => ?_, fun mem => ?_, fun mem => ?_, nofun⟩
  · exact Uri.notMem_at_hostInfo authority (mem_hostInfo_of_mem_hostName mem)
  · exact Text.notMem_cut_fst ':' _ (Text.mem_of_mem_cut_fst mem)
  · exact Text.notMem_cut_fst '%' _ mem

/-- What normalising reads in an authority apart from the name of its host. -/
structure AgreeApart (authority other : Text) : Prop where
  userinfo : (Text.cutLast '@' authority).1 = (Text.cutLast '@' other).1
  port : (Text.cut ':' (Uri.hostInfo authority)).2 = (Text.cut ':' (Uri.hostInfo other)).2
  zone : hostZone authority = hostZone other

/-- In an authority any name can stand in the place of the host. -/
theorem exists_around_hostName (authority : Text) :
    ∃ who back, authority = who ++ (hostName authority ++ back) ∧
      Uri.hostInfo authority = hostName authority ++ back ∧
      ∀ name, (∀ c ∈ ['@', ':', '%'], c ∉ name) →
        hostName (who ++ (name ++ back)) = name ∧
          AgreeApart authority (who ++ (name ++ back)) := by
  -- An authority is taken apart from the outside: who asks, the port, the zone. A name without
  -- their marks leaves each of these cuts where it is.
  obtain ⟨who, whole, cutWho⟩ := Text.exists_append_cutLast '@' authority
  obtain ⟨port, info, cutPort⟩ := Text.exists_append_cut ':' (Uri.hostInfo authority)
  obtain ⟨zone, host, cutZone⟩ :=
    Text.exists_append_cut '%' (Text.cut ':' (Uri.hostInfo authority)).1
  have parts : Uri.hostInfo authority = hostName authority ++ (zone ++ port) := by
    rw [← List.append_assoc, hostName, ← host, ← info]
  have noColon : ':' ∉ zone := fun mem =>
    Text.notMem_cut_fst ':' (Uri.hostInfo authority) (host ▸ List.mem_append_right _ mem)
  have noAt : '@' ∉ zone ++ port := fun mem =>
    Uri.notMem_at_hostInfo authority (parts ▸ List.mem_append_right _ mem)
  refine ⟨who, zone ++ port, whole.trans (congrArg (who ++ ·) parts), parts, fun name bare => ?_⟩
  have read : Text.cutLast '@' (who ++ (name ++ (zone ++ port))) =
      ((Text.cutLast '@' authority).1, name ++ (zone ++ port)) :=
    cutWho _ fun mem => (List.mem_append.1 mem).elim (bare '@' (by decide)) noAt
  have info : Uri.hostInfo (who ++ (name ++ (zone ++ port))) = name ++ (zone ++ port) :=
    congrArg Prod.snd read
  have ported : Text.cut ':' (name ++ (zone ++ port)) =
      (name ++ zone, (Text.cut ':' (Uri.hostInfo authority)).2) := by
    rw [← List.append_assoc]
    exact cutPort _ fun mem => (List.mem_append.1 mem).elim (bare ':' (by decide)) noColon
  have zoned := cutZone name (bare '%' (by decide))
  refine ⟨?_, ?_, ?_, ?_⟩
  · rw [hostName, info, ported, zoned]
  · rw [read]
  · rw [info, ported]
  · rw [hostZone, hostZone, info, ported, zoned]

/-! ## The letter case of a host -/

theorem hostAndPort_of_notMem {authority : Text} (noBracket : '[' ∉ authority) :
    Uri.hostAndPort authority = ((Text.cut ':' (Uri.hostInfo authority)).1,
      (Text.cut ':' (Uri.hostInfo authority)).2.getD []) := by
  have absent : '[' ∉ Uri.hostInfo authority := fun mem => noBracket (Uri.mem_hostInfo mem)
  simp only [Uri.hostAndPort, Text.cut_of_notMem absent]

theorem host?_of_notMem {uri : Uri} (noBracket : '[' ∉ uri.authority) : uri.host? =
    if hostName uri.authority = [] ∧ hostZone uri.authority = none then none
    else some (Text.lower (hostName uri.authority) ++
      (hostZone uri.authority).elim [] ('%' :: ·)) := by
  have lowered (host : Text) : Uri.lowerHost host =
      Text.lower (Text.cut '%' host).1 ++ (Text.cut '%' host).2.elim [] ('%' :: ·) := by
    rw [Uri.lowerHost]
    obtain ⟨name, zone⟩ := Text.cut '%' host
    cases zone with
    | none => exact (List.append_nil _).symm
    | some zone => rfl
  rw [Uri.host?_eq, hostAndPort_of_notMem noBracket, lowered]
  exact ite_congr (propext (Text.eq_nil_iff_cut '%' _)) (fun _ => rfl) fun _ => rfl

/-- The name of a host in another letter case, and all else in an authority as it is. -/
structure Recased (authority other : Text) : Prop extends AgreeApart authority other where
  letters : authority.map Char.toLower = other.map Char.toLower
  name : (hostName authority).map Char.toLower = (hostName other).map Char.toLower

/-- Lower-casing takes the letter case of an ASCII name away, and nothing else tells the authorities
apart. -/
theorem Recased.alike_ofParts {authority other : Text} (recased : Recased authority other)
    (noBracket : '[' ∉ authority)
    (ascii : Text.IsAscii authority ∧ Text.IsAscii other) (scheme rest : Text) :
    Alike origin (Uri.ofParts scheme authority rest) (Uri.ofParts scheme other rest) := by
  have lowered : Text.lower (hostName authority) = Text.lower (hostName other) := by
    have inAuthority {whole : Text} (ascii : Text.IsAscii whole) : Text.IsAscii (hostName whole) :=
      fun c mem => ascii c (Uri.mem_hostInfo (mem_hostInfo_of_mem_hostName mem))
    rw [Text.lower_of_ascii (inAuthority ascii.1), Text.lower_of_ascii (inAuthority ascii.2),
      recased.name]
  have nameless := eq_nil_iff_of_letters recased.name
  have otherNoBracket : '[' ∉ other :=
    mt (mark_mem_iff recased.letters (by decide)).2 noBracket
  have host : (Uri.ofParts scheme authority rest).host? =
      (Uri.ofParts scheme other rest).host? := by
    rw [host?_of_notMem noBracket, host?_of_notMem otherNoBracket]
    refine ite_congr (propext ?_) (fun _ => rfl) fun _ => ?_
    · simp only [Uri.ofParts, nameless, recased.zone]
    · simp only [Uri.ofParts, lowered, recased.zone]
  have port : (Uri.ofParts scheme authority rest).port? =
      (Uri.ofParts scheme other rest).port? := by
    simp only [Uri.port?, Uri.ofParts, hostAndPort_of_notMem noBracket,
      hostAndPort_of_notMem otherNoBracket, recased.port]
  have userinfo : (Uri.ofParts scheme authority rest).userinfo? =
      (Uri.ofParts scheme other rest).userinfo? := by
    simp only [Uri.userinfo?, Uri.ofParts, recased.userinfo]
  exact ⟨rfl, .rfl, eq_nil_iff_of_letters recased.letters, host, port, userinfo, rfl, rfl, rfl⟩

def authorityOf (raw : Text) : Text :=
  (Uri.splitAuthority (Uri.splitScheme (Uri.clean raw)).2).1

/-- What stands in a raw identifier from the host on. -/
def fromHost (raw : Text) : Text :=
  Uri.hostInfo (authorityOf raw) ++ (Uri.splitAuthority (Uri.splitScheme (Uri.clean raw)).2).2

/-- The two identifiers differ in the letter case of the host, up to a zone, and nowhere else. -/
structure RecasesHost (left right : Text) : Prop where
  letters : left.map Char.toLower = right.map Char.toLower
  elsewhere : ∃ front name back,
    Uri.clean left = front ++ fromHost left ∧
      fromHost left = hostName (authorityOf left) ++ back ∧
      Uri.clean right = front ++ (name ++ back)

namespace RecasesHost

theorem hasUriChars_eq (recases : RecasesHost left right) :
    hasUriChars left = hasUriChars right := by
  rw [← hasUriChars_map_toLower, recases.letters, hasUriChars_map_toLower]

/-- An identifier without an authority has no host that could be changed. -/
theorem clean_eq (recases : RecasesHost left right) (noAuthority : authorityOf left = []) :
    Uri.clean left = Uri.clean right := by
  obtain ⟨front, name, back, whole, parts, other⟩ := recases.elsewhere
  have nameless : hostName (authorityOf left) = [] := by rw [noAuthority]; rfl
  rw [nameless] at parts
  have letters := congrArg Uri.clean recases.letters
  rw [clean_map_toLower, clean_map_toLower, whole, parts, other] at letters
  -- The letters are as many as before, so that nothing can stand in place of no host.
  have same := congrArg List.length letters
  simp only [List.length_map, List.length_append, List.length_nil] at same
  have empty : name = [] := List.eq_nil_of_length_eq_zero (by omega)
  rw [whole, parts, other, empty]

/-- With an authority, what is read before and after the host is the same. -/
theorem exists_recased (recases : RecasesHost left right) (authority : authorityOf left ≠ []) :
    ∃ other, Recased (authorityOf left) other ∧
      (Uri.splitScheme (Uri.clean right)).1 = (Uri.splitScheme (Uri.clean left)).1 ∧
      Uri.splitAuthority (Uri.splitScheme (Uri.clean right)).2 =
        (other, (Uri.splitAuthority (Uri.splitScheme (Uri.clean left)).2).2) := by
  obtain ⟨front, name, back, whole, parts, changed⟩ := recases.elsewhere
  have letters := congrArg Uri.clean recases.letters
  rw [clean_map_toLower, clean_map_toLower, whole, parts, changed] at letters
  simp only [List.map_append, List.append_cancel_left_eq, List.append_cancel_right_eq] at letters
  obtain ⟨who, tail, authorityParts, info, around⟩ := exists_around_hostName (authorityOf left)
  obtain ⟨slashes, anyAuthority⟩ := splitAuthority_append authority
  obtain ⟨lead, scheme, anyRest⟩ := exists_append_splitScheme slashes
  rw [fromHost, info, List.append_assoc, List.append_cancel_left_eq] at parts
  -- The host stands after the scheme, the slashes and who asks.
  have place : front = lead ++ '/' :: '/' :: who := by
    refine (List.append_left_inj (fromHost left)).1 (whole.symm.trans ?_)
    rw [scheme, fromHost, info]
    conv => lhs; rw [← authorityOf, authorityParts]
    simp only [List.append_assoc, List.cons_append]
  have sameLetters : (authorityOf left).map Char.toLower =
      (who ++ (name ++ tail)).map Char.toLower := by
    conv => lhs; rw [authorityParts]
    simp only [List.map_append, letters]
  have bare : ∀ c ∈ ['@', ':', '%'], c ∉ name := by
    have known : ∀ c ∈ ['@', ':', '%'], c ∈ authorityMarks := by decide
    exact fun c mark mem =>
      marks_notMem_hostName _ c mark ((mark_mem_iff letters (known c mark)).2 mem)
  obtain ⟨named, apart⟩ := around name bare
  have ends : ∀ c ∈ ['/', '?', '#'], c ∉ who ++ (name ++ tail) := by
    have known : ∀ c ∈ ['/', '?', '#'], c ∈ authorityMarks := by decide
    exact fun c mark mem =>
      Uri.notMem_splitAuthority mark ((mark_mem_iff sameLetters (known c mark)).2 mem)
  have read : Uri.splitScheme (Uri.clean right) = ((Uri.splitScheme (Uri.clean left)).1,
      '/' :: '/' :: ((who ++ (name ++ tail)) ++
        (Uri.splitAuthority (Uri.splitScheme (Uri.clean left)).2).2)) := by
    rw [changed, place, ← parts]
    simp only [List.append_assoc, List.cons_append]
    exact anyRest _
  refine ⟨who ++ (name ++ tail), ⟨apart, sameLetters, ?_⟩, ?_, ?_⟩
  · rw [named, letters]
  · rw [read]
  · rw [read]
    exact anyAuthority _ ends

/-- Where the characters are in order and the authority has no brackets, both identifiers are read,
and read alike. -/
theorem readAlike (recases : RecasesHost left right)
    (brackets : '[' ∉ authorityOf left ∧ ']' ∉ authorityOf left)
    (chars : hasUriChars left = true) :
    ReadAlike origin (Uri.split left) (Uri.split right) := by
  by_cases authority : authorityOf left = []
  · -- There is no host to change.
    refine readAlike_of_schemes ?_ ?_ ?_ <;> rw [recases.clean_eq authority]
  · obtain ⟨other, recased, scheme, rest⟩ := recases.exists_recased authority
    have ascii {raw : Text} (chars : hasUriChars raw = true) : Text.IsAscii (authorityOf raw) :=
      fun c mem => (isUriText_clean chars).isAscii c
        (Uri.mem_of_mem_splitScheme (Uri.mem_of_mem_splitAuthority (.inl mem)))
    have same : authorityOf right = other := congrArg Prod.fst rest
    have otherAscii : Text.IsAscii other := same ▸ ascii (recases.hasUriChars_eq ▸ chars)
    have accepted : Uri.checkBrackets (authorityOf left) = .ok () := if_pos brackets
    have otherAccepted : Uri.checkBrackets other = .ok () := by
      rw [mark_mem_iff recased.letters (by decide), mark_mem_iff recased.letters (by decide)]
        at brackets
      exact if_pos brackets
    have leftRead := Uri.split_eq_ok_iff.2
      ⟨accepted, Uri.hidesDelimiter_of_isAscii (ascii chars), rfl⟩
    have rightRead := Uri.split_eq_ok_iff (t := right).2
      ⟨by rwa [rest], by rw [rest]; exact Uri.hidesDelimiter_of_isAscii otherAscii, rfl⟩
    rw [leftRead, rightRead, rest, scheme]
    exact .read (recased.alike_ofParts brackets.1 ⟨ascii chars, otherAscii⟩ _ _)

end RecasesHost

/-! ## Both freedoms -/

/-- What the spelling of an identifier does not matter for. -/
structure SpellingIsFree (origin : Option Origin) : Prop where
  /-- In any letter case, a scheme of the web is as good as the one that it stands for. -/
  schemes : ∀ names ∈ schemeNames, ∀ left right rest : Text,
    left.map Char.toLower ∈ names → right.map Char.toLower ∈ names →
      ComeToSame origin (left ++ ':' :: rest) (right ++ ':' :: rest)
  /-- Up to a zone, the letter case of a host without brackets does not matter. -/
  hosts : ∀ left right : Text, '[' ∉ authorityOf left → ']' ∉ authorityOf left →
    RecasesHost left right → ComeToSame origin left right

/-- Whatever the identifier is and whether or not it is accepted, its spelling is free. -/
theorem spellingIsFree (origin : Option Origin) : SpellingIsFree origin where
  schemes names known left right rest leftName rightName :=
    comeToSame_of_schemeNames known leftName rightName rest
  hosts left right noOpening noClosing recases := by
    refine comeToSame_of_readAlike (eq_nil_iff_of_letters recases.letters) recases.hasUriChars_eq ?_
    exact recases.readAlike ⟨noOpening, noClosing⟩

/-- A scheme of the web in capitals, and a host in two letter cases that has who asks before it and
a zone and a port after it. -/
theorem spellingIsFree_of_scheme_and_host :
    ComeToSame none "HTTP://h/~/notes" "realm://h/~/notes" ∧
      ComeToSame none "realm://Me@Auth.example.com%25Z:80/~/d"
        "realm://Me@auth.EXAMPLE.com%25Z:80/~/d" := by
  refine ⟨?_, ?_⟩
  · exact (spellingIsFree none).schemes _ List.mem_cons_self "HTTP" "realm" "//h/~/notes"
      (by decide) (by decide)
  · exact (spellingIsFree none).hosts _ _ (by decide) (by decide)
      ⟨by decide, "realm://Me@", "auth.EXAMPLE.com", "%25Z:80/~/d", by decide, by decide, by decide⟩

end SyncedFile.Locator
