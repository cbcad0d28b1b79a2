import SyncedFile.Proofs.Locator.Normal

/-!
# Addresses read back

The address of a locator is put together from its parts, and normalising takes it apart again. For
readable parts both sides fit: whatever is accepted gives the same parts.

* `authority_locator` — the three pieces of an authority;
* `hostAndPort_authority`, `checkBrackets_authority` — reading the authority;
* `split_url` — reading the whole address;
* `normalizeText_url_eq_ok_iff` — when an address is accepted again, and that the locator is the
  same then.
-/

namespace SyncedFile

namespace Text

/-! ## Numerals -/

theorem digitsFrom_eq_ofDigitChars (acc : Nat) (t : Text) :
    digitsFrom acc t = Nat.ofDigitChars 10 t acc := by
  induction t generalizing acc with
  | nil => rfl
  | cons c rest ih => exact (ih _).trans Nat.ofDigitChars_cons.symm

theorem isDigit_of_mem_ofNat {n : Nat} {c : Char} (mem : c ∈ ofNat n) : c.isDigit = true :=
  Nat.isDigit_of_mem_toDigits (by decide) (by decide) mem

theorem digits?_ofNat (n : Nat) : digits? (ofNat n) = some n := by
  have digits : ofNat n ≠ [] ∧ (ofNat n).all Char.isDigit = true :=
    ⟨Nat.toDigits_ne_nil, List.all_eq_true.2 fun c mem => isDigit_of_mem_ofNat mem⟩
  rw [digits?, if_pos digits, digitsFrom_eq_ofDigitChars]
  exact congrArg some Nat.ofDigitChars_ten_toDigits

end Text

namespace Locator.Parts

variable {parts : Parts}

/-! ## Authorities -/

def whoText (parts : Parts) : Text :=
  match parts.userinfo with
  | some who => who ++ ['@']
  | none => []

def portNumeral (parts : Parts) : Text :=
  match parts.port with
  | some n => Text.ofNat n
  | none => []

def portText (parts : Parts) : Text :=
  if parts.port = none then [] else ':' :: parts.portNumeral

theorem isDigit_of_mem_portNumeral {c : Char} (mem : c ∈ parts.portNumeral) :
    c.isDigit = true := by
  rw [portNumeral] at mem
  split at mem
  · exact Text.isDigit_of_mem_ofNat mem
  · exact absurd mem List.not_mem_nil

theorem mem_portText {c : Char} (mem : c ∈ parts.portText) : c = ':' ∨ c.isDigit = true := by
  rw [portText] at mem
  split at mem
  · exact absurd mem List.not_mem_nil
  · exact (List.mem_cons.1 mem).imp_right isDigit_of_mem_portNumeral

theorem authority_locator (readable : parts.Readable) :
    parts.locator.authority = parts.whoText ++ (parts.locator.hostText ++ parts.portText) := by
  have who : (if parts.locator.userinfo.isTruthy then parts.locator.userinfo.plain ++ ['@'] else [])
      = parts.whoText := by
    cases given : parts.userinfo with
    | none => simp [locator, whoText, given, Value.isTruthy]
    | some name =>
      have nonempty := (readable.userinfo name given).1
      simp [locator, whoText, given, nonempty]
  have port : (if parts.locator.port.isNull then [] else ':' :: parts.locator.port.plain)
      = parts.portText := by
    cases given : parts.port with
    | none => simp [locator, portText, given, Value.isNull]
    | some n =>
      simp only [locator, portText, portNumeral, given]
      rfl
  rw [Locator.authority, who, port, List.append_assoc]

theorem notMem_at_hostText (readable : parts.Readable) :
    '@' ∉ parts.locator.hostText ++ parts.portText := by
  have notInHost : '@' ∉ parts.host := readable.host.notMem_delimiter '@' (by decide)
  intro mem
  rcases List.mem_append.1 mem with inHost | inPort
  · rw [Locator.hostText] at inHost
    split at inHost
    · simp only [locator, List.cons_append, List.mem_cons, List.mem_append,
        List.not_mem_nil, or_false] at inHost
      rcases inHost with opening | inHost | closing
      · exact absurd opening (by decide)
      · exact notInHost inHost
      · exact absurd closing (by decide)
    · exact notInHost inHost
  · rcases mem_portText inPort with colon | digit
    · exact absurd colon (by decide)
    · exact absurd digit (by decide)

theorem hostInfo_authority (readable : parts.Readable) :
    Uri.hostInfo parts.locator.authority = parts.locator.hostText ++ parts.portText := by
  have noAt := notMem_at_hostText readable
  rw [authority_locator readable, Uri.hostInfo, whoText]
  split
  · rw [List.append_assoc, List.singleton_append, Text.cutLast_append_cons _ noAt]
  · rw [List.nil_append, Text.cutLast_of_notMem noAt]

theorem userinfo?_authority (readable : parts.Readable) {uri : Uri}
    (authority : uri.authority = parts.locator.authority) : uri.userinfo? = parts.userinfo := by
  have noAt := notMem_at_hostText readable
  rw [Uri.userinfo?, authority, authority_locator readable, whoText]
  cases given : parts.userinfo with
  | none => simp only [List.nil_append, Text.cutLast_of_notMem noAt]
  | some who =>
    simp only [List.append_assoc, List.singleton_append, Text.cutLast_append_cons _ noAt]
    cases who with
    | nil => exact absurd rfl (readable.userinfo [] given).1
    | cons c rest => rfl

theorem cut_colon_portText : (Text.cut ':' parts.portText).2.getD [] = parts.portNumeral := by
  rw [portText, portNumeral]
  cases parts.port with
  | none => rfl
  | some n => rfl

theorem cut_colon_append_portText (parts : Parts) {host : Text} (absent : ':' ∉ host) :
    (Text.cut ':' (host ++ parts.portText)).1 = host ∧
      (Text.cut ':' (host ++ parts.portText)).2.getD [] = parts.portNumeral := by
  rw [portText, portNumeral]
  cases parts.port with
  | none => simp [Text.cut_of_notMem absent]
  | some n => simp [Text.cut_append_cons absent]

theorem cut_bracket_hostInfo (readable : parts.Readable) (colon : ':' ∈ parts.host) :
    Text.cut '[' (Uri.hostInfo parts.locator.authority) =
        ([], some (parts.host ++ ']' :: parts.portText)) ∧
      Text.cut ']' (parts.host ++ ']' :: parts.portText) = (parts.host, some parts.portText) := by
  have closed : ']' ∉ parts.host := (readable.host.bracketed (.inr colon)).1
  have hostText : parts.locator.hostText = '[' :: parts.host ++ [']'] := if_pos colon
  refine ⟨?_, Text.cut_append_cons closed _⟩
  rw [hostInfo_authority readable, hostText, List.append_assoc]
  exact Text.cut_append_cons List.not_mem_nil _

theorem notMem_bracket_portText : '[' ∉ parts.portText ∧ ']' ∉ parts.portText := by
  constructor <;>
  · intro mem
    rcases mem_portText mem with colon | digit
    · exact absurd colon (by decide)
    · exact absurd digit (by decide)

/-- A host without a colon that holds an opening bracket does not begin with it, so that its
authority is not in order. -/
theorem notMem_bracket_of_checkBrackets (readable : parts.Readable)
    (ascii : Text.IsAscii parts.host) (noColon : ':' ∉ parts.host)
    (accepted : Uri.checkBrackets parts.locator.authority = .ok ()) : '[' ∉ parts.host := by
  intro opening
  have hostText : parts.locator.hostText = parts.host := if_neg noColon
  have address := (readable.host.bracketed (.inl opening)).2 ascii
  -- An address of a future version begins with `v`, and one of version 6 holds a colon.
  obtain ⟨head, -⟩ | version6 := Uri.checkAddress_cases address
  · obtain ⟨rest, hostEq⟩ := List.head?_eq_some_iff.1 head
    have info := hostInfo_authority readable
    rw [hostText] at info
    rcases Text.cut_cases '[' (Uri.hostInfo parts.locator.authority) with
      ⟨absent, -⟩ | ⟨before, bracketed, whole, -, eq⟩
    · rw [info] at absent
      exact absent (List.mem_append_left _ opening)
    · have beforeNonempty : before ≠ [] := by
        rintro rfl
        rw [info, hostEq] at whole
        exact absurd (List.cons.inj whole).1 (by decide)
      have inAuthority : '[' ∈ parts.locator.authority := by
        apply Uri.mem_hostInfo
        rw [info]
        exact List.mem_append_left _ opening
      rw [Uri.checkBrackets, if_neg fun none => none.1 inAuthority] at accepted
      split at accepted
      · cases accepted
      · simp only [eq, if_pos beforeNonempty] at accepted
        cases accepted
  · exact noColon (Uri.mem_colon_of_isVersion6 version6)

/-- An authority in order names the host and the port that it was made of. -/
theorem hostAndPort_authority (readable : parts.Readable) (ascii : Text.IsAscii parts.host)
    (accepted : Uri.checkBrackets parts.locator.authority = .ok ()) :
    Uri.hostAndPort parts.locator.authority = (parts.host, parts.portNumeral) := by
  by_cases colon : ':' ∈ parts.host
  · obtain ⟨opening, closing⟩ := cut_bracket_hostInfo readable colon
    simp only [Uri.hostAndPort, opening, closing, Option.getD_some, cut_colon_portText]
  · have noBracket := notMem_bracket_of_checkBrackets readable ascii colon accepted
    have hostText : parts.locator.hostText = parts.host := if_neg colon
    have noOpening : '[' ∉ parts.host ++ parts.portText := by
      rw [List.mem_append, not_or]
      exact ⟨noBracket, notMem_bracket_portText.1⟩
    obtain ⟨host, port⟩ := cut_colon_append_portText parts colon
    simp only [Uri.hostAndPort, hostInfo_authority readable, hostText,
      Text.cut_of_notMem noOpening, host, port]

theorem host?_authority (readable : parts.Readable) (ascii : Text.IsAscii parts.host)
    (accepted : Uri.checkBrackets parts.locator.authority = .ok ()) {uri : Uri}
    (authority : uri.authority = parts.locator.authority) : uri.host? = some parts.host := by
  rw [Uri.host?_eq, authority, hostAndPort_authority readable ascii accepted,
    if_neg readable.host.ne_nil, readable.host.lowerHost_eq ascii]

theorem port?_authority (readable : parts.Readable) (ascii : Text.IsAscii parts.host)
    (accepted : Uri.checkBrackets parts.locator.authority = .ok ()) {uri : Uri}
    (authority : uri.authority = parts.locator.authority) : uri.port? = .ok parts.port := by
  simp only [Uri.port?, authority, hostAndPort_authority readable ascii accepted, portNumeral]
  cases given : parts.port with
  | none => rfl
  | some n =>
    have small : n ≤ 65535 := readable.port_le n given
    have short : (Text.ofNat n).length ≤ 5 := by
      rw [Text.ofNat, Nat.length_toDigits_le_iff (by decide) (by decide)]
      omega
    have nonempty : Text.ofNat n ≠ [] := Nat.toDigits_ne_nil
    have fits : ¬ Uri.maxDigits < (Text.ofNat n).length := by
      rw [Uri.maxDigits]
      omega
    simp only [if_neg nonempty, Text.digits?_ofNat, if_neg fits, if_neg (Nat.not_lt.2 small)]

/-- Where neither the host nor who asks holds a bracket, the authority is in order. -/
theorem checkBrackets_authority (readable : parts.Readable) (ascii : Text.IsAscii parts.host)
    (host : '[' ∉ parts.host ∧ ']' ∉ parts.host)
    (userinfo : ∀ who ∈ parts.userinfo, '[' ∉ who ∧ ']' ∉ who) :
    Uri.checkBrackets parts.locator.authority = .ok () := by
  have who : '[' ∉ parts.whoText ∧ ']' ∉ parts.whoText := by
    rw [whoText]
    cases given : parts.userinfo with
    | none => decide
    | some name =>
      have plain := userinfo name given
      simp [plain.1, plain.2]
  by_cases colon : ':' ∈ parts.host
  · obtain ⟨opening, closing⟩ := cut_bracket_hostInfo readable colon
    have address := (readable.host.bracketed (.inr colon)).2 ascii
    have hostText : parts.locator.hostText = '[' :: parts.host ++ [']'] := if_pos colon
    have both : '[' ∈ parts.locator.authority ∧ ']' ∈ parts.locator.authority := by
      rw [authority_locator readable, hostText]
      constructor <;> simp
    have port : (parts.portText.head?.any (· ≠ ':')) = false := by
      rw [portText]
      split <;> rfl
    rw [Uri.checkBrackets, if_neg fun none => none.1 both.1,
      if_neg fun one => one.elim (absurd both.1) (absurd both.2)]
    simp only [opening, closing, Option.bind_some, port, Bool.false_eq_true, ne_eq,
      not_true_eq_false, if_false, address]
  · have hostText : parts.locator.hostText = parts.host := if_neg colon
    have none : '[' ∉ parts.locator.authority ∧ ']' ∉ parts.locator.authority := by
      simp only [authority_locator readable, hostText, List.mem_append, not_or]
      exact ⟨⟨who.1, host.1, notMem_bracket_portText.1⟩, who.2, host.2, notMem_bracket_portText.2⟩
    rw [Uri.checkBrackets, if_pos none]

/-! ## The whole address -/

def queryText (parts : Parts) : Text := Text.marked '?' parts.query

def fragmentText (parts : Parts) : Text := Text.marked '#' parts.fragment

def restText (parts : Parts) : Text :=
  parts.locator.pathText ++ parts.queryText ++ parts.fragmentText

def uri (parts : Parts) : Uri where
  scheme := parts.scheme
  authority := parts.locator.authority
  path := parts.locator.pathText
  query := parts.query
  fragment := parts.fragment

theorem url_locator (parts : Parts) : parts.locator.url =
    parts.scheme ++ ':' :: '/' :: '/' :: (parts.locator.authority ++ parts.restText) := by
  have query : (if parts.locator.query.isTruthy then '?' :: parts.locator.query.plain else [])
      = parts.queryText := by
    cases given : parts.query <;> simp [locator, queryText, Text.marked, given]
  have fragment :
      (if parts.locator.fragment.isTruthy then '#' :: parts.locator.fragment.plain else [])
      = parts.fragmentText := by
    cases given : parts.fragment <;> simp [locator, fragmentText, Text.marked, given]
  rw [Locator.url, query, fragment]
  simp [locator, restText]

theorem delimiter_notMem_authority (readable : parts.Readable) {c : Char}
    (ends : c ∈ ['/', '?', '#']) : c ∉ parts.locator.authority := by
  have marks : ∀ d ∈ ['/', '?', '#'],
      d ≠ '@' ∧ d ≠ '[' ∧ d ≠ ']' ∧ d ≠ ':' ∧ d.isDigit = false ∧ d ∈ ['/', '?', '#', '@'] := by
    decide
  obtain ⟨notAt, notOpening, notClosing, notColon, notDigit, delimiter⟩ := marks c ends
  have who : c ∉ parts.whoText := by
    rw [whoText]
    cases given : parts.userinfo with
    | none => exact List.not_mem_nil
    | some name =>
      have separated := (readable.userinfo name given).2 c ends
      simp [separated, notAt]
  have host : c ∉ parts.locator.hostText := by
    have absent : c ∉ parts.locator.host := readable.host.notMem_delimiter c delimiter
    rw [Locator.hostText]
    split
    · simp [absent, notOpening, notClosing]
    · exact absent
  have port : c ∉ parts.portText := by
    intro mem
    rcases mem_portText mem with colon | digit
    · exact notColon colon
    · rw [notDigit] at digit
      cases digit
  simp only [authority_locator readable, List.mem_append, not_or]
  exact ⟨who, host, port⟩

theorem notMem_pathText (readable : parts.Readable) {c : Char} (ends : c ∈ ['?', '#']) :
    c ∉ parts.locator.pathText := by
  have marks : ∀ d ∈ ['?', '#'], d ≠ '/' ∧ d ∈ ['/', '?', '#'] := by decide
  obtain ⟨notSlash, delimiter⟩ := marks c ends
  intro mem
  rcases List.mem_cons.1 mem with slash | inPath
  · exact notSlash slash
  · rcases Text.mem_joinWith inPath with slash | ⟨segment, inList, inSegment⟩
    · exact notSlash (List.mem_singleton.1 slash)
    · exact (readable.separated segment inList).2 c delimiter inSegment

theorem splitScheme_url (readable : parts.Readable) : Uri.splitScheme parts.locator.url =
    (parts.scheme, '/' :: '/' :: (parts.locator.authority ++ parts.restText)) := by
  rw [url_locator, readable.scheme.splitScheme_append]

theorem splitAuthority_url (readable : parts.Readable) :
    Uri.splitAuthority (Uri.splitScheme parts.locator.url).2 =
      (parts.locator.authority, parts.restText) := by
  rw [splitScheme_url readable]
  apply Text.spanUntil_append
  · exact fun c mem ends => delimiter_notMem_authority readable ends mem
  · intro c head
    have slash : '/' = c := Option.some.inj head
    exact slash ▸ List.mem_cons_self

theorem ofParts_restText (readable : parts.Readable) :
    Uri.ofParts parts.scheme parts.locator.authority parts.restText = parts.uri := by
  have noHash : '#' ∉ parts.locator.pathText ++ parts.queryText := by
    rw [List.mem_append, not_or]
    refine ⟨notMem_pathText readable (by decide), fun mem => ?_⟩
    rcases Text.mem_marked mem with mark | inQuery
    · exact absurd mark (by decide)
    · exact readable.query inQuery
  rw [queryText] at noHash
  obtain ⟨rest, fragment⟩ := Text.cut_append_marked noHash parts.fragment
  obtain ⟨path, query⟩ :=
    Text.cut_append_marked (notMem_pathText readable (c := '?') (by decide)) parts.query
  simp only [Uri.ofParts, uri, restText, queryText, fragmentText, rest, fragment, path, query]

theorem url_ne_nil (parts : Parts) : parts.locator.url ≠ [] := by
  rw [url_locator]
  exact List.append_ne_nil_of_right_ne_nil _ (List.cons_ne_nil _ _)

theorem mem_url_of_mem_authority {c : Char} (mem : c ∈ parts.locator.authority) :
    c ∈ parts.locator.url := by
  rw [url_locator]
  simp [mem]

theorem split_url (readable : parts.Readable) (chars : IsUriText parts.locator.url) {read : Uri} :
    Uri.split parts.locator.url = .ok read ↔
      Uri.checkBrackets parts.locator.authority = .ok () ∧ read = parts.uri := by
  have visible := Uri.hidesDelimiter_of_isAscii fun c mem =>
    chars.isAscii c (mem_url_of_mem_authority mem)
  rw [Uri.split_eq_ok_iff, clean_of_isUriText chars, splitAuthority_url readable,
    splitScheme_url readable, ofParts_restText readable]
  simp only [visible, true_and]

/-! ## Normalising an address -/

theorem mem_authority_of_mem_host {c : Char} (mem : c ∈ parts.host) :
    c ∈ parts.locator.authority := by
  have inHost : c ∈ parts.locator.hostText := by
    rw [Locator.hostText]
    split
    · simp [locator, mem]
    · exact mem
  simp [Locator.authority, inHost]

theorem isAscii_host (chars : IsUriText parts.locator.url) : Text.IsAscii parts.host :=
  fun c mem => chars.isAscii c (mem_url_of_mem_authority (mem_authority_of_mem_host mem))

theorem segmentsFor_uri (readable : parts.Readable) (host : Text) :
    segmentsFor parts.uri host = parts.path := by
  obtain ⟨c, rest, hostEq⟩ := List.exists_cons_of_ne_nil readable.host.ne_nil
  have inAuthority : c ∈ parts.locator.authority :=
    mem_authority_of_mem_host (hostEq ▸ List.mem_cons_self)
  have authority : parts.uri.authority ≠ [] := List.ne_nil_of_mem inAuthority
  have separated : ∀ segment ∈ parts.path, '/' ∉ segment := fun segment mem =>
    (readable.separated segment mem).2 '/' (by decide)
  rw [segmentsFor]
  simp only [if_neg authority]
  exact Text.splitOn_joinWith parts.path_ne_nil separated

theorem complete_uri (readable : parts.Readable) (chars : IsUriText parts.locator.url)
    (accepted : Uri.checkBrackets parts.locator.authority = .ok ()) (origin : Option Origin) :
    Complete parts.uri origin where
  hierarchical _ _ := rfl
  scheme_ne_nil _ := readable.scheme.ne_nil
  host_ne_none _ none := by
    rw [host?_authority readable (isAscii_host chars) accepted rfl] at none
    cases none
  inText := by
    apply needsOctets_of_host
    rw [host?_authority readable (isAscii_host chars) accepted rfl]
    exact nofun
  path_ne_nil nil := by cases nil
  path_ne_root root := by
    -- A path of the root alone would have no character after its slash.
    obtain ⟨segment, more, path⟩ := List.exists_cons_of_ne_nil parts.path_ne_nil
    have inPath : segment ∈ parts.path := path ▸ List.mem_cons_self
    obtain ⟨c, rest, whole⟩ := List.exists_cons_of_ne_nil (readable.separated segment inPath).1
    have joined : c ∈ Text.joinWith ['/'] parts.locator.path :=
      Text.mem_joinWith_of_mem inPath (whole ▸ List.mem_cons_self)
    rw [(List.cons.inj root).2] at joined
    cases joined

/-- The parts of an address are the parts that it was made of, whatever the origin. -/
theorem ofUri_uri (readable : parts.Readable) (chars : IsUriText parts.locator.url)
    (accepted : Uri.checkBrackets parts.locator.authority = .ok ()) (origin : Option Origin) :
    Parts.ofUri parts.uri parts.port origin (hostFor parts.uri origin) = parts := by
  have host : hostFor parts.uri origin = parts.host := by
    rw [hostFor, host?_authority readable (isAscii_host chars) accepted rfl, Option.getD_some]
  have scheme : schemeFor parts.uri.scheme origin = parts.scheme := readable.scheme.kept origin
  have path : segmentsFor parts.uri parts.host = parts.path := segmentsFor_uri readable _
  have userinfo : parts.uri.userinfo? = parts.userinfo := userinfo?_authority readable rfl
  simp only [ofUri, host, scheme, path, userinfo]
  rfl

/-- When the address of readable parts is accepted: its authority has to be in order, and its path
has to pass the checks. The locator is the one that gave the address. -/
theorem normalizeText_url_eq_ok_iff (readable : parts.Readable)
    (chars : IsUriText parts.locator.url) {origin : Option Origin} {locator : Locator} :
    normalizeText parts.locator.url origin = .ok locator ↔
      Uri.checkBrackets parts.locator.authority = .ok () ∧ parts.Accepted ∧
        locator = parts.locator := by
  rw [normalizeText_eq_ok_iff]
  constructor
  · rintro ⟨-, read, port, split, ported, -, accepted, eq⟩
    obtain ⟨brackets, rfl⟩ := (split_url readable chars).1 split
    rw [port?_authority readable (isAscii_host chars) brackets rfl] at ported
    obtain rfl := Except.ok.inj ported
    rw [ofUri_uri readable chars brackets] at accepted eq
    exact ⟨brackets, accepted, eq⟩
  · rintro ⟨brackets, accepted, eq⟩
    refine ⟨hasUriChars_of_isUriText (url_ne_nil parts) chars, parts.uri, parts.port,
      (split_url readable chars).2 ⟨brackets, rfl⟩,
      port?_authority readable (isAscii_host chars) brackets rfl,
      complete_uri readable chars brackets origin, ?_⟩
    rw [ofUri_uri readable chars brackets]
    exact ⟨accepted, eq⟩

end Locator.Parts
end SyncedFile
