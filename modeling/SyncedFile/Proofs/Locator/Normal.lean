import SyncedFile.Proofs.Locator.Parts
import SyncedFile.Proofs.Uri.Host

/-!
# Normal locators

The invariant of the locators that normalising gives, part by part. It is what makes the address of
a locator fall apart into the same parts again.

* `Parts.Readable` — no part holds a character that would end it;
* `Parts.Normal` — besides, the path passes its checks, and what comes from the raw identifier holds
  URI characters only;
* `normal_of_normalizeText` — normalising gives normal parts.
-/

namespace SyncedFile

namespace Origin

theorem ofText_eq_ok {url : Value} {text : Text} {origin : Origin}
    (given : ofText url text = .ok origin) :
    ∃ uri, Uri.split text = .ok uri ∧ uri.host? = some origin.host ∧ uri.scheme ≠ [] ∧
      origin.scheme = uri.scheme ∧ origin.inOctets = false := by
  rw [ofText] at given
  split at given
  · cases given
  · next uri read =>
    split at given
    · next host named =>
      split at given
      · cases given
      · next scheme =>
        obtain rfl := Except.ok.inj given
        exact ⟨uri, read, named, scheme, rfl, rfl⟩
    · cases given

theorem isHost_of_ofText {url : Value} {text : Text} {origin : Origin}
    (given : ofText url text = .ok origin) : Uri.IsHost origin.host := by
  obtain ⟨uri, read, named, -⟩ := ofText_eq_ok given
  exact Uri.isHost_of_split read named

theorem isHost_of_ofOctets {url : Value} {bytes : List UInt8} {origin : Origin}
    (given : ofOctets url bytes = .ok origin) : Uri.IsHost origin.host := by
  unfold ofOctets at given
  split at given
  · cases given
  · cases read : ofText url (bytes.map fun b => Char.ofNat b.toNat) with
    | error failure =>
      rw [read] at given
      cases given
    | ok same =>
      rw [read] at given
      have host := isHost_of_ofText read
      obtain rfl := Except.ok.inj given
      exact host

theorem isHost_of_ofUrl {url : Value} {origin : Origin} (given : ofUrl url = .ok origin) :
    Uri.IsHost origin.host := by
  unfold ofUrl at given
  split at given
  · cases given
  · split at given
    · exact isHost_of_ofText (Fault.mapError_failure_eq_ok.1 given)
    · exact isHost_of_ofOctets (Fault.mapError_failure_eq_ok.1 given)
    · split at given <;> cases given

theorem ofText_of_ofUrl {url : Text} {origin : Origin} (given : ofUrl (.text url) = .ok origin) :
    ofText (.text url) url = .ok origin :=
  Fault.mapError_failure_eq_ok.1 given

theorem inOctets_of_ofUrl_text {url : Text} {origin : Origin}
    (given : ofUrl (.text url) = .ok origin) : origin.inOctets = false := by
  obtain ⟨-, -, -, -, -, inText⟩ := ofText_eq_ok (ofText_of_ofUrl given)
  exact inText

theorem eq_text_or_octets_of_ofUrl {url : Value} {origin : Origin} (given : ofUrl url = .ok origin) :
    (∃ text, url = .text text) ∨ ∃ bytes, url = .octets .fixed bytes := by
  unfold ofUrl at given
  split at given
  · cases given
  · split at given
    · exact .inl ⟨_, rfl⟩
    · exact .inr ⟨_, rfl⟩
    · split at given <;> cases given

end Origin

namespace Locator

/-! ## Texts of URI characters -/

def IsUriText (t : Text) : Prop := ∀ c ∈ t, isUriChar c = true

theorem toNat_of_isUriChar {c : Char} (allowed : isUriChar c = true) :
    0x20 < c.toNat ∧ c.toNat < 0x80 := by
  have marks : ∀ d ∈ "-._~:/?#[]@!$&'()*+,;=%".toList, 0x20 < d.toNat ∧ d.toNat < 0x80 := by
    decide
  have bounded (first last : Char) (bounds : 0x20 < first.toNat ∧ last.toNat < 0x80)
      (from_le : first.val ≤ c.val) (le_to : c.val ≤ last.val) :
      0x20 < c.toNat ∧ c.toNat < 0x80 :=
    ⟨Nat.lt_of_lt_of_le bounds.1 (UInt32.le_iff_toNat_le.1 from_le),
      Nat.lt_of_le_of_lt (UInt32.le_iff_toNat_le.1 le_to) bounds.2⟩
  simp only [isUriChar, Bool.or_eq_true, decide_eq_true_eq] at allowed
  rcases allowed with letter | mark
  · rcases (Text.isAlphanum_iff c).1 letter with upper | lower | digit
    · exact bounded 'A' 'Z' (by decide) upper.1 upper.2
    · exact bounded 'a' 'z' (by decide) lower.1 lower.2
    · exact bounded '0' '9' (by decide) digit.1 digit.2
  · exact marks c mark

theorem IsUriText.isAscii {t : Text} (chars : IsUriText t) : Text.IsAscii t :=
  fun c mem => (toNat_of_isUriChar (chars c mem)).2

theorem IsUriText.notMem_lineBreak {t : Text} (chars : IsUriText t) : '\n' ∉ t :=
  fun mem => absurd (chars '\n' mem) (by decide)

theorem clean_append {front : Text} (chars : IsUriText front) (nonempty : front ≠ [])
    (rest : Text) :
    Uri.clean (front ++ rest) = front ++ rest.filter (· ∉ ['\t', '\r', '\n']) := by
  have kept : (front ++ rest).dropWhile (fun c => c.toNat ≤ 0x20) = front ++ rest := by
    obtain ⟨c, more, rfl⟩ := List.exists_cons_of_ne_nil nonempty
    have visible := (toNat_of_isUriChar (chars c List.mem_cons_self)).1
    rw [List.cons_append, List.dropWhile_cons_of_neg]
    simpa using visible
  have whole : front.filter (· ∉ ['\t', '\r', '\n']) = front := by
    rw [List.filter_eq_self]
    intro c mem
    have marks : ∀ d ∈ ['\t', '\r', '\n'], isUriChar d = false := by decide
    exact decide_eq_true fun blank => by
      have allowed := chars c mem
      rw [marks c blank] at allowed
      cases allowed
  rw [Uri.clean, kept, List.filter_append, whole]

theorem clean_of_isUriText {t : Text} (chars : IsUriText t) : Uri.clean t = t := by
  by_cases nil : t = []
  · rw [nil]
    rfl
  · simpa using clean_append chars nil []

theorem hasUriChars_of_isUriText {t : Text} (nonempty : t ≠ []) (chars : IsUriText t) :
    hasUriChars t = true := by
  rw [hasUriChars]
  simp only [Text.dropFinal_of_notMem chars.notMem_lineBreak, Bool.and_eq_true, List.all_eq_true]
  exact ⟨by simpa using nonempty, chars⟩

/-- Whether all characters may stand in a URI does not depend on a beginning that does. -/
theorem hasUriChars_append_cons {front : Text} (chars : IsUriText front) {c : Char}
    (notBreak : c ≠ '\n') (rest : Text) :
    hasUriChars (front ++ c :: rest) = hasUriChars (c :: rest) := by
  have all : front.all isUriChar = true := List.all_eq_true.2 chars
  have first : Text.dropFinal '\n' (c :: rest) = c :: Text.dropFinal '\n' rest :=
    Text.dropFinal_append (t := [c]) (fun mem => notBreak (List.mem_singleton.1 mem).symm) rest
  simp only [hasUriChars, Text.dropFinal_append chars.notMem_lineBreak, first, List.all_append, all,
    Bool.true_and]
  cases front <;> rfl

theorem isUriText_clean {raw : Text} (chars : hasUriChars raw = true) :
    IsUriText (Uri.clean raw) := by
  intro c mem
  simp only [hasUriChars, Bool.and_eq_true, List.all_eq_true] at chars
  obtain ⟨inRaw, notBreak⟩ := List.mem_filter.1 mem
  replace inRaw := (List.dropWhile_sublist _).subset inRaw
  -- The check lets a break pass at the end, which is just what cleaning takes away.
  rcases Text.dropFinal_cases '\n' raw with whole | whole
  · rw [whole, List.mem_append, List.mem_singleton] at inRaw
    rcases inRaw with inBody | rfl
    · exact chars.2 c inBody
    · exact absurd notBreak (by decide)
  · rw [whole] at chars
    exact chars.2 c inRaw

/-! ## Parts that can be read back -/

/-- A scheme as it stands in a locator: in lower case, and not one of the web. -/
structure IsScheme (scheme : Text) : Prop where
  head : (scheme.head?.any Char.isAlpha) = true
  chars : scheme.all Uri.isSchemeChar = true
  lowered : scheme.map Char.toLower = scheme
  kept : ∀ origin, schemeFor scheme origin = scheme

namespace Parts

/-- No part holds a character that would end it in an address. -/
structure Readable (parts : Parts) : Prop where
  scheme : IsScheme parts.scheme
  host : Uri.IsHost parts.host
  separated : ∀ segment ∈ parts.path, segment ≠ [] ∧ ∀ c ∈ ['/', '?', '#'], c ∉ segment
  port_le : ∀ number ∈ parts.port, number ≤ 65535
  query : '#' ∉ parts.query
  userinfo : ∀ who ∈ parts.userinfo, who ≠ [] ∧ ∀ c ∈ ['/', '?', '#'], c ∉ who

/-- The parts that normalising gives. -/
structure Normal (parts : Parts) : Prop extends Readable parts, Accepted parts where
  pathChars : ∀ segment ∈ parts.path, IsUriText segment
  queryChars : IsUriText parts.query
  fragmentChars : IsUriText parts.fragment
  userinfoChars : ∀ who ∈ parts.userinfo, IsUriText who

end Parts

/-! ## Schemes -/

theorem IsScheme.ne_nil {scheme : Text} (isScheme : IsScheme scheme) : scheme ≠ [] := by
  rintro rfl
  exact absurd isScheme.head (by decide)

theorem isUriText_of_isSchemeChar {scheme : Text} (chars : scheme.all Uri.isSchemeChar = true) :
    IsUriText scheme := by
  intro c mem
  have allowed := List.all_eq_true.1 chars c mem
  have marks : ∀ d ∈ ['+', '-', '.'], isUriChar d = true := by decide
  simp only [Uri.isSchemeChar, Bool.or_eq_true, decide_eq_true_eq] at allowed
  rcases allowed with letter | mark
  · rw [isUriChar, letter, Bool.true_or]
  · exact marks c mark

/-- The text has the form of a scheme, in any letter case. -/
def hasSchemeForm (t : Text) : Bool :=
  (t.head?.any Char.isAlpha) && t.all Uri.isSchemeChar

theorem hasSchemeForm_map_toLower (t : Text) :
    hasSchemeForm (t.map Char.toLower) = hasSchemeForm t := by
  rw [hasSchemeForm, hasSchemeForm, Text.all_map_toLower (by decide)]
  cases t with
  | nil => rfl
  | cons c rest =>
    have head := Text.apply_toLower (p := Char.isAlpha) (by decide) c
    simp only [List.map_cons, List.head?_cons, Option.any_some, head]

theorem isUriText_of_hasSchemeForm {scheme : Text} (form : hasSchemeForm scheme = true) :
    IsUriText scheme :=
  isUriText_of_isSchemeChar (Bool.and_eq_true_iff.1 form).2

theorem splitScheme_append_cons {scheme : Text} (form : hasSchemeForm scheme = true) (rest : Text) :
    Uri.splitScheme (scheme ++ ':' :: rest) = (scheme.map Char.toLower, rest) := by
  have noColon : ':' ∉ scheme := fun mem =>
    absurd (List.all_eq_true.1 (Bool.and_eq_true_iff.1 form).2 ':' mem) (by decide)
  rw [Uri.splitScheme, Text.cut_append_cons noColon]
  exact if_pos form

theorem splitScheme_slash (rest : Text) : Uri.splitScheme ('/' :: rest) = ([], '/' :: rest) := by
  rw [Uri.splitScheme, Text.cut, if_neg (by decide)]
  cases (Text.cut ':' rest).2 with
  | none => rfl
  | some after => rfl

theorem IsScheme.splitScheme_append {scheme : Text} (isScheme : IsScheme scheme) (rest : Text) :
    Uri.splitScheme (scheme ++ ':' :: rest) = (scheme, rest) := by
  have form := Bool.and_eq_true_iff.2 ⟨isScheme.head, isScheme.chars⟩
  rw [splitScheme_append_cons form, isScheme.lowered]

theorem isScheme_plainScheme : IsScheme plainScheme :=
  ⟨by decide, by decide, by decide, fun _ => rfl⟩

theorem isScheme_secureScheme : IsScheme secureScheme :=
  ⟨by decide, by decide, by decide, fun _ => rfl⟩

theorem lower_of_isSchemeChar {scheme : Text} (chars : scheme.all Uri.isSchemeChar = true)
    (lowered : scheme.map Char.toLower = scheme) : Text.lower scheme = scheme :=
  (Text.lower_of_ascii (isUriText_of_isSchemeChar chars).isAscii).trans lowered

theorem splitScheme_cases (t : Text) :
    (Uri.splitScheme t).1 = [] ∨
      ((Uri.splitScheme t).1.head?.any Char.isAlpha) = true ∧
        (Uri.splitScheme t).1.all Uri.isSchemeChar = true ∧
        (Uri.splitScheme t).1.map Char.toLower = (Uri.splitScheme t).1 := by
  rw [Uri.splitScheme]
  rcases Text.cut_cases ':' t with ⟨-, eq⟩ | ⟨scheme, rest, rfl, -, eq⟩
  · exact .inl (by simp only [eq])
  · simp only [eq]
    split
    · next form =>
      have lowered := Bool.and_eq_true_iff.1 ((hasSchemeForm_map_toLower scheme).trans form)
      refine .inr ⟨lowered.1, lowered.2, ?_⟩
      rw [List.map_map]
      exact List.map_congr_left fun c _ => Text.toLower_toLower c
    · exact .inl rfl

theorem isScheme_schemeFor (t : Text) (origin : Option Origin) :
    IsScheme (schemeFor (Uri.splitScheme t).1 origin) := by
  rcases splitScheme_cases t with none | ⟨head, chars, lowered⟩
  · rw [none, schemeFor, if_pos rfl]
    split
    · exact isScheme_secureScheme
    · exact isScheme_plainScheme
  · have nonempty : (Uri.splitScheme t).1 ≠ [] := by
      intro nil
      rw [nil] at head
      exact absurd head (by decide)
    have same : Text.lower (Uri.splitScheme t).1 = (Uri.splitScheme t).1 :=
      lower_of_isSchemeChar chars lowered
    simp only [schemeFor, if_neg nonempty, same]
    split
    · next entry found =>
      have inTable := List.mem_of_find?_eq_some found
      have schemes : ∀ entry ∈ webSchemes, entry.2 = plainScheme ∨ entry.2 = secureScheme := by
        decide
      rcases schemes entry inTable with eq | eq
      · exact eq ▸ isScheme_plainScheme
      · exact eq ▸ isScheme_secureScheme
    · next notWeb =>
      exact ⟨head, chars, lowered, fun origin => by
        simp only [schemeFor, if_neg nonempty, same, notWeb]⟩

/-! ## The other parts -/

theorem mem_segmentsFor {uri : Uri} {host segment : Text} {c : Char}
    (mem : segment ∈ segmentsFor uri host) (inSegment : c ∈ segment) : c ∈ uri.path := by
  have inBody {segments : List Text} (mem : segment ∈ dropHost host segments) :
      segment ∈ segments := by
    unfold dropHost at mem
    split at mem
    · split at mem
      · exact List.mem_cons_of_mem _ mem
      · exact mem
    · exact mem
  have pieces : segment ∈ Text.splitOn '/'
      (if uri.path.head? = some '/' then uri.path.tail else uri.path) := by
    simp only [segmentsFor] at mem
    split at mem
    · exact inBody mem
    · exact mem
  have inPath := Text.mem_of_mem_splitOn pieces inSegment
  split at inPath
  · exact List.mem_of_mem_tail inPath
  · exact inPath

theorem le_of_port? {uri : Uri} {n : Nat} (ported : uri.port? = .ok (some n)) : n ≤ 65535 := by
  simp only [Uri.port?] at ported
  split at ported
  · cases ported
  · split at ported
    · cases ported
    · split at ported
      · cases ported
      · split at ported
        · cases ported
        · next small =>
          obtain rfl := Option.some.inj (Except.ok.inj ported)
          exact Nat.le_of_not_lt small

theorem userinfo?_eq_some {uri : Uri} {who : Text} (given : uri.userinfo? = some who) :
    who ≠ [] ∧ ∀ c ∈ who, c ∈ uri.authority := by
  rw [Uri.userinfo?] at given
  rcases Text.cutLast_cases '@' uri.authority with ⟨-, eq⟩ | ⟨before, rest, whole, -, eq⟩
  · simp only [eq, reduceCtorEq] at given
  · simp only [eq] at given
    cases before with
    | nil => cases given
    | cons c rest =>
      obtain rfl := Option.some.inj given
      refine ⟨List.cons_ne_nil _ _, fun d mem => ?_⟩
      rw [whole]
      exact List.mem_append_left _ mem

/-- What normalising gives is normal. -/
theorem normal_ofUri {raw : Text} {uri : Uri} {port : Option Nat} {origin : Option Origin}
    (chars : hasUriChars raw = true) (read : Uri.split raw = .ok uri)
    (ported : uri.port? = .ok port) (complete : Complete uri origin)
    (hosts : ∀ o ∈ origin, Uri.IsHost o.host)
    (accepted : (Parts.ofUri uri port origin (hostFor uri origin)).Accepted) :
    (Parts.ofUri uri port origin (hostFor uri origin)).Normal := by
  have inRaw {c : Char}
      (mem : c ∈ uri.authority ∨ c ∈ uri.path ∨ c ∈ uri.query ∨ c ∈ uri.fragment) :
      isUriChar c = true := isUriText_clean chars c (Uri.mem_clean_of_split read mem)
  have parts := (Uri.split_eq_ok_iff.1 read).2.2
  have who {name : Text} (given : name ∈ uri.userinfo?) := userinfo?_eq_some given
  refine {
    toReadable := {
      scheme := ?_
      host := ?_
      separated := fun segment mem => accepted.delimiter_notMem mem
      port_le := ?_
      query := ?_
      userinfo := fun name given => ⟨(who given).1, fun c ends mem => ?_⟩ }
    toAccepted := accepted
    pathChars := fun segment mem c inSegment => inRaw (.inr (.inl (mem_segmentsFor mem inSegment)))
    queryChars := fun c mem => inRaw (.inr (.inr (.inl mem)))
    fragmentChars := fun c mem => inRaw (.inr (.inr (.inr mem)))
    userinfoChars := fun name given c mem => inRaw (.inl ((who given).2 c mem)) }
  · rw [parts]
    exact isScheme_schemeFor _ origin
  · cases named : uri.host? with
    | some host =>
      have host_eq : hostFor uri origin = host := by rw [hostFor, named]; rfl
      exact host_eq ▸ Uri.isHost_of_split read named
    | none =>
      cases origin with
      | none => exact absurd named (complete.host_ne_none rfl)
      | some o =>
        have host_eq : hostFor uri (some o) = o.host := by rw [hostFor, named]; rfl
        exact host_eq ▸ hosts o rfl
  · rintro n rfl
    exact le_of_port? ported
  · rw [parts]
    exact fun mem => Text.notMem_cut_fst '#' _ (Text.mem_of_mem_cut_snd mem)
  · have inAuthority := (who given).2 c mem
    rw [parts] at inAuthority
    exact Uri.notMem_splitAuthority ends inAuthority

theorem normal_of_normalizeText {raw : Text} {origin : Option Origin} {locator : Locator}
    (given : normalizeText raw origin = .ok locator) (hosts : ∀ o ∈ origin, Uri.IsHost o.host) :
    ∃ parts : Parts, parts.Normal ∧ locator = parts.locator := by
  obtain ⟨chars, uri, port, read, ported, complete, accepted, eq⟩ := normalizeText_eq_ok_iff.1 given
  exact ⟨_, normal_ofUri chars read ported complete hosts accepted, eq⟩

end Locator
end SyncedFile
