import SyncedFile.Proofs.Locator.ReadBack

/-!
# The round trip of addresses

The address of a normalised locator is either read back as that very locator or refused as
malformed, whatever origin is at hand then. It is only refused for a host that no URI can hold or
for brackets outside the place of the host.

* `isUriText_of_hasUriChars_url` — a normal address in order holds URI characters only;
* `normalizeText_url` — the two outcomes;
* `normalize_url_of_normalize` — the round trip.
-/

namespace SyncedFile.Locator

namespace Parts

variable {parts : Parts}

/-! ## Characters of an address -/

theorem restText_ne_nil (parts : Parts) : parts.restText ≠ [] := by
  rw [restText, pathText, List.cons_append]
  exact List.cons_ne_nil _ _

theorem isUriText_marked {mark : Char} {t : Text} (allowed : isUriChar mark = true)
    (chars : IsUriText t) : IsUriText (Text.marked mark t) := by
  intro c mem
  rcases Text.mem_marked mem with rfl | inText
  · exact allowed
  · exact chars c inText

theorem isUriText_joinWith {segments : List Text} (chars : ∀ segment ∈ segments, IsUriText segment) :
    IsUriText (Text.joinWith ['/'] segments) := by
  intro c mem
  rcases Text.mem_joinWith mem with slash | ⟨segment, inList, inSegment⟩
  · exact List.mem_singleton.1 slash ▸ by decide
  · exact chars segment inList c inSegment

theorem isUriText_cons {c : Char} {t : Text} (allowed : isUriChar c = true) (chars : IsUriText t) :
    IsUriText (c :: t) :=
  List.forall_mem_cons.2 ⟨allowed, chars⟩

theorem isUriText_append {t u : Text} (left : IsUriText t) (right : IsUriText u) :
    IsUriText (t ++ u) :=
  List.forall_mem_append.2 ⟨left, right⟩

theorem isUriText_restText (normal : parts.Normal) : IsUriText parts.restText := by
  have path : IsUriText parts.locator.pathText :=
    isUriText_cons (by decide) (isUriText_joinWith normal.pathChars)
  exact isUriText_append
    (isUriText_append path (isUriText_marked (by decide) normal.queryChars))
    (isUriText_marked (by decide) normal.fragmentChars)

/-- A line break could only follow the address, and there is none in its last part. -/
theorem isUriText_of_hasUriChars_url (normal : parts.Normal)
    (chars : hasUriChars parts.locator.url = true) : IsUriText parts.locator.url := by
  simp only [hasUriChars, Bool.and_eq_true, List.all_eq_true] at chars
  rcases Text.dropFinal_cases '\n' parts.locator.url with broken | whole
  · -- The break would end the path, the query or the fragment, which are texts of URI characters.
    obtain ⟨front, eq⟩ : ∃ front, parts.locator.url = front ++ parts.restText :=
      ⟨parts.scheme ++ ':' :: '/' :: '/' :: parts.locator.authority, by simp [url_locator]⟩
    have last : parts.locator.url.getLast? = some '\n' := by
      rw [broken, List.getLast?_concat]
    rw [eq] at last
    exact absurd (Text.eq_nil_of_getLast? last (isUriText_restText normal).notMem_lineBreak)
      (restText_ne_nil parts)
  · rw [whole] at chars
    exact chars.2

theorem isUriText_url (normal : parts.Normal) (host : IsUriText parts.host) :
    IsUriText parts.locator.url := by
  have who : IsUriText parts.whoText := by
    rw [whoText]
    split
    · next name given =>
      exact isUriText_append (normal.userinfoChars name given)
        (isUriText_cons (by decide) (List.forall_mem_nil _))
    · exact List.forall_mem_nil _
  have hostText : IsUriText parts.locator.hostText := by
    rw [Locator.hostText]
    split
    · exact isUriText_append (isUriText_cons (by decide) host)
        (isUriText_cons (by decide) (List.forall_mem_nil _))
    · exact host
  have port : IsUriText parts.portText := by
    intro c mem
    rcases mem_portText mem with rfl | digit
    · decide
    · simp [isUriChar, Char.isAlphanum, digit]
  have authority : IsUriText parts.locator.authority := by
    rw [authority_locator normal.toReadable]
    exact isUriText_append who (isUriText_append hostText port)
  have scheme : IsUriText parts.scheme := isUriText_of_isSchemeChar normal.scheme.chars
  rw [url_locator]
  refine isUriText_append scheme ?_
  refine isUriText_cons (by decide) (isUriText_cons (by decide) (isUriText_cons (by decide) ?_))
  exact isUriText_append authority (isUriText_restText normal)

/-! ## The two outcomes -/

theorem normalizeText_url (normal : parts.Normal) (origin : Option Origin) :
    normalizeText parts.locator.url origin = .ok parts.locator ∨
      ∃ why, normalizeText parts.locator.url origin =
        .error (.failure (.malformed (.text parts.locator.url) why)) := by
  cases allowed : hasUriChars parts.locator.url with
  | false =>
    refine .inr ⟨.forbiddenCharacter, ?_⟩
    rw [normalizeText, allowed]
    rfl
  | true =>
    have chars := isUriText_of_hasUriChars_url normal allowed
    cases brackets : Uri.checkBrackets parts.locator.authority with
    | error fault =>
      have refused : Uri.split parts.locator.url = .error fault := by
        apply Uri.split_eq_error
        rw [clean_of_isUriText chars, splitAuthority_url normal.toReadable]
        exact brackets
      refine .inr ⟨.unreadable fault, ?_⟩
      rw [normalizeText, allowed]
      simp only [readUri, refused]
      rfl
    | ok =>
      exact .inl ((normalizeText_url_eq_ok_iff normal.toReadable chars).2
        ⟨brackets, normal.toAccepted, rfl⟩)

end Parts

/-! ## Normalised locators -/

theorem normalize_text {raw : Text} (nonempty : raw ≠ []) (origin : Option Origin) :
    normalize (.text raw) origin = normalizeText raw origin := by
  cases raw with
  | nil => exact absurd rfl nonempty
  | cons c rest => rfl

/-- A normalised locator has normal parts, wherever its host has come from. -/
theorem normal_of_normalize {raw : Value} {origin : Option Origin} {locator : Locator}
    (origins : ∀ o ∈ origin, ∃ url, Origin.ofUrl url = .ok o)
    (given : normalize raw origin = .ok locator) :
    ∃ parts : Parts, parts.Normal ∧ locator = parts.locator := by
  obtain ⟨t, -, read⟩ := normalizeText_of_normalize given
  refine normal_of_normalizeText read fun o mem => ?_
  obtain ⟨url, read⟩ := origins o mem
  exact Origin.isHost_of_ofUrl read

/-- The address of a normalised locator is read back as that locator or refused as malformed, with
any origin. It is read back if its host holds URI characters other than brackets and no bracket
stands in the part before the host. -/
theorem normalize_url_of_normalize {raw : Text} {origin : Option Origin} {locator : Locator}
    (origins : ∀ o ∈ origin, ∃ url, Origin.ofUrl url = .ok o)
    (given : normalize (.text raw) origin = .ok locator) (second : Option Origin) :
    (normalize (.text locator.url) second = .ok locator ∨
      ∃ why, normalize (.text locator.url) second =
        .error (.failure (.malformed (.text locator.url) why))) ∧
    ((∀ c ∈ locator.host, isUriChar c = true ∧ c ≠ '[' ∧ c ≠ ']') →
      (∀ who, locator.userinfo = .text who → '[' ∉ who ∧ ']' ∉ who) →
      normalize (.text locator.url) second = .ok locator) := by
  obtain ⟨parts, normal, rfl⟩ := normal_of_normalize origins given
  rw [normalize_text (Parts.url_ne_nil parts)]
  refine ⟨Parts.normalizeText_url normal second, fun host userinfo => ?_⟩
  have chars := Parts.isUriText_url normal fun c mem => (host c mem).1
  have plainHost : '[' ∉ parts.host ∧ ']' ∉ parts.host :=
    ⟨fun mem => (host '[' mem).2.1 rfl, fun mem => (host ']' mem).2.2 rfl⟩
  have plainUserinfo : ∀ who ∈ parts.userinfo, '[' ∉ who ∧ ']' ∉ who := by
    intro who given
    apply userinfo who
    rw [Parts.locator, Option.mem_def.1 given]
    rfl
  have brackets := Parts.checkBrackets_authority normal.toReadable (Parts.isAscii_host chars)
    plainHost plainUserinfo
  exact (Parts.normalizeText_url_eq_ok_iff normal.toReadable chars).2
    ⟨brackets, normal.toAccepted, rfl⟩

/-- An identifier without a host goes round with the host of its origin, and with none after it. -/
theorem normalize_url_of_relative :
    ∃ locator, normalize (.text "/data/~?full") (some ⟨"https", "auth.example.com", false⟩) =
        .ok locator ∧
      locator.host = "auth.example.com" ∧
      ∀ second, normalize (.text locator.url) second = .ok locator := by
  have origins : ∀ o ∈ some (Origin.mk "https" "auth.example.com" false),
      ∃ url, Origin.ofUrl url = .ok o := by
    rintro o ⟨⟩
    exact ⟨.text "https://auth.example.com/auth", rfl⟩
  have given : normalize (.text "/data/~?full") (some ⟨"https", "auth.example.com", false⟩) =
      .ok {
        scheme := .text "realms"
        host := "auth.example.com"
        path := ["data", "~"]
        query := .text "full"
        path_ne_nil := List.cons_ne_nil _ _ } := rfl
  refine ⟨_, given, rfl, fun second => ?_⟩
  exact (normalize_url_of_normalize origins given second).2 (by decide) fun who eq => by cases eq

end SyncedFile.Locator
