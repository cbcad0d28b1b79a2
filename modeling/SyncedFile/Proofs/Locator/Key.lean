import SyncedFile.Proofs.Locator.Resolved

/-!
# Addresses as keys

Every part of a locator can be found again in its address, also where the address as a whole would
be refused. So two resolved locators have the same address only if they agree in all their parts.

* `host_and_port_eq`, `userinfo_eq` — what an authority holds;
* `url_inj` — the address of readable parts;
* `url_eq_iff_of_isReadFrom` — the addresses of resolved locators.
-/

namespace SyncedFile

namespace Locator.Parts

variable {left right : Parts}

/-! ## Authorities -/

theorem digits?_portNumeral (parts : Parts) : Text.digits? parts.portNumeral = parts.port := by
  rw [portNumeral]
  cases parts.port with
  | none => rfl
  | some n => exact Text.digits?_ofNat n

theorem closing_mem_cut_colon (parts : Parts) (colon : ':' ∈ parts.host) :
    ']' ∈ (Text.cut ':' (parts.locator.hostText ++ parts.portText)).2.getD [] := by
  obtain ⟨before, after, host, absent⟩ := List.eq_append_cons_of_mem colon
  have hostText : parts.locator.hostText = '[' :: parts.host ++ [']'] := if_pos colon
  have whole : parts.locator.hostText ++ parts.portText =
      ('[' :: before) ++ ':' :: (after ++ ']' :: parts.portText) := by
    simp [hostText, host]
  have absentBefore : ':' ∉ '[' :: before := by
    simp [absent]
  rw [whole, Text.cut_append_cons absentBefore]
  simp

theorem hostInfo_eq (leftReadable : left.Readable) (rightReadable : right.Readable)
    (same : left.locator.authority = right.locator.authority) :
    left.locator.hostText ++ left.portText = right.locator.hostText ++ right.portText := by
  rw [← hostInfo_authority leftReadable, same, hostInfo_authority rightReadable]

/-- Only a host in brackets is followed by more than the digits of a port once the first colon has
been passed. -/
theorem colon_mem_of_authority_eq (leftReadable : left.Readable) (rightReadable : right.Readable)
    (same : left.locator.authority = right.locator.authority) (colon : ':' ∈ left.host) :
    ':' ∈ right.host := by
  refine Decidable.byContradiction fun absent => ?_
  have closing := closing_mem_cut_colon left colon
  have hostText : right.locator.hostText = right.host := if_neg absent
  rw [hostInfo_eq leftReadable rightReadable same, hostText,
    (cut_colon_append_portText right absent).2] at closing
  exact absurd (isDigit_of_mem_portNumeral closing) (by decide)

theorem host_and_port_eq (leftReadable : left.Readable) (rightReadable : right.Readable)
    (same : left.locator.authority = right.locator.authority) :
    left.host = right.host ∧ left.port = right.port := by
  suffices hosts : left.host = right.host ∧ left.portNumeral = right.portNumeral by
    refine ⟨hosts.1, ?_⟩
    rw [← digits?_portNumeral left, hosts.2, digits?_portNumeral]
  by_cases colon : ':' ∈ left.host
  · have rightColon := colon_mem_of_authority_eq leftReadable rightReadable same colon
    obtain ⟨leftOpening, leftClosing⟩ := cut_bracket_hostInfo leftReadable colon
    obtain ⟨rightOpening, rightClosing⟩ := cut_bracket_hostInfo rightReadable rightColon
    rw [same, rightOpening] at leftOpening
    obtain ⟨-, bracketed⟩ := Prod.mk.inj leftOpening
    rw [← Option.some.inj bracketed, rightClosing] at leftClosing
    obtain ⟨hosts, ports⟩ := Prod.mk.inj leftClosing
    refine ⟨hosts.symm, ?_⟩
    rw [← cut_colon_portText, ← cut_colon_portText, Option.some.inj ports]
  · have rightColon : ':' ∉ right.host := fun mem =>
      colon (colon_mem_of_authority_eq rightReadable leftReadable same.symm mem)
    have info := hostInfo_eq leftReadable rightReadable same
    have leftText : left.locator.hostText = left.host := if_neg colon
    have rightText : right.locator.hostText = right.host := if_neg rightColon
    rw [leftText, rightText] at info
    obtain ⟨leftHost, leftPort⟩ := cut_colon_append_portText left colon
    obtain ⟨rightHost, rightPort⟩ := cut_colon_append_portText right rightColon
    rw [← leftHost, ← leftPort, info, rightHost, rightPort]
    exact ⟨rfl, rfl⟩

theorem userinfo_eq (leftReadable : left.Readable) (rightReadable : right.Readable)
    (same : left.locator.authority = right.locator.authority) :
    left.userinfo = right.userinfo := by
  have leftWho : left.uri.userinfo? = left.userinfo := userinfo?_authority leftReadable rfl
  rw [← leftWho]
  exact userinfo?_authority rightReadable same

/-! ## The whole address -/

theorem scheme_authority_rest_eq (leftReadable : left.Readable) (rightReadable : right.Readable)
    (same : left.locator.url = right.locator.url) :
    left.scheme = right.scheme ∧ left.locator.authority = right.locator.authority ∧
      left.restText = right.restText := by
  have schemes := splitScheme_url leftReadable
  have authorities := splitAuthority_url leftReadable
  rw [same, splitScheme_url rightReadable] at schemes
  rw [same, splitAuthority_url rightReadable] at authorities
  obtain ⟨authority, rest⟩ := Prod.mk.inj authorities
  exact ⟨(Prod.mk.inj schemes).1.symm, authority.symm, rest.symm⟩

theorem url_inj (leftReadable : left.Readable) (rightReadable : right.Readable) :
    left.locator.url = right.locator.url ↔ left = right := by
  refine ⟨fun same => ?_, fun same => by rw [same]⟩
  obtain ⟨scheme, authority, rest⟩ := scheme_authority_rest_eq leftReadable rightReadable same
  obtain ⟨host, port⟩ := host_and_port_eq leftReadable rightReadable authority
  have userinfo := userinfo_eq leftReadable rightReadable authority
  have uri : left.uri = right.uri := by
    rw [← ofParts_restText leftReadable, scheme, authority, rest, ofParts_restText rightReadable]
  have query : left.query = right.query := congrArg Uri.query uri
  have fragment : left.fragment = right.fragment := congrArg Uri.fragment uri
  have path : left.path = right.path := by
    rw [← segmentsFor_uri leftReadable [], uri, segmentsFor_uri rightReadable]
  cases left
  cases right
  simp_all

theorem equals_locator_iff : left.locator.equals right.locator = true ↔ left = right := by
  have texts (t u : Text) : (Value.text t).equals (.text u) = true ↔ t = u := by
    simp [Value.equals, Value.equalsAtom]
  have numbers (m n : Nat) : (Value.int m).equals (.int n) = true ↔ m = n := by
    refine Iff.trans ?_ Int.ofNat_inj
    simp [Value.equals, Value.equalsAtom, Value.whole?]
  have ports (m n : Option Nat) : ((m.map fun i => Value.int i).getD .null).equals
      ((n.map fun i => Value.int i).getD .null) = true ↔ m = n := by
    cases m with
    | none => cases n <;> simp [Value.equals, Value.equalsAtom, Value.whole?]
    | some m =>
      cases n with
      | none => simp [Value.equals, Value.equalsAtom, Value.whole?]
      | some n => exact (numbers m n).trans Option.some_inj.symm
  have names (t u : Option Text) : ((t.map Value.text).getD .null).equals
      ((u.map Value.text).getD .null) = true ↔ t = u := by
    cases t <;> cases u <;> simp [Value.equals, Value.equalsAtom, Value.whole?]
  cases left
  cases right
  simp only [Locator.equals, locator, Bool.and_eq_true, beq_iff_eq, texts, ports, names,
    Parts.mk.injEq, and_assoc]

end Locator.Parts

namespace Locator

/-- Locators that have been read and compare equal are the same. -/
theorem eq_of_equals_of_normalize {raw otherRaw : Value} {origin otherOrigin : Option Origin}
    {locator other : Locator} (given : normalize raw origin = .ok locator)
    (otherGiven : normalize otherRaw otherOrigin = .ok other)
    (equal : locator.equals other = true) : locator = other := by
  obtain ⟨parts, -, rfl⟩ := accepted_of_normalize given
  obtain ⟨others, -, rfl⟩ := accepted_of_normalize otherGiven
  rw [Parts.equals_locator_iff.1 equal]

end Locator

/-! ## Resolved locators -/

/-- The locator has been read from a raw identifier, with what it lacks from an origin, and resolved
for a value. -/
def ResolvedLocator.IsReadFrom (origin : Option Origin) (resolved : ResolvedLocator) : Prop :=
  ∃ raw locator value, Locator.normalize (.text raw) origin = .ok locator ∧
    locator.resolve value = .ok resolved

namespace ResolvedLocator

theorem IsReadFrom.parts {origin : Option Origin} {resolved : ResolvedLocator}
    (read : resolved.IsReadFrom origin)
    (origins : ∀ o ∈ origin, ∃ url, Origin.ofUrl url = .ok o) :
    ∃ parts : Locator.Parts, parts.Readable ∧ resolved.toLocator = parts.locator := by
  obtain ⟨raw, locator, value, given, filled⟩ := read
  obtain ⟨parts, normal, rfl⟩ := Locator.normal_of_normalize origins given
  obtain ⟨others, readable, same, -⟩ := Locator.Parts.parts_of_resolve normal filled
  exact ⟨others, readable, same⟩

theorem toLocator_inj {left right : ResolvedLocator} :
    left.toLocator = right.toLocator ↔ left = right := by
  cases left
  cases right
  simp

/-- The address of a resolved locator is a key to it: two of them have the same address exactly if
they compare equal, which is exactly if they agree in all their fields. -/
theorem url_eq_iff_of_isReadFrom {first second : Option Origin}
    (firstOrigin : ∀ o ∈ first, ∃ url, Origin.ofUrl url = .ok o)
    (secondOrigin : ∀ o ∈ second, ∃ url, Origin.ofUrl url = .ok o) {left right : ResolvedLocator}
    (leftRead : left.IsReadFrom first) (rightRead : right.IsReadFrom second) :
    (left.url = right.url ↔ left = right) ∧
      (left.url = right.url ↔ left.toLocator.equals right.toLocator = true) := by
  obtain ⟨leftParts, leftReadable, leftSame⟩ := leftRead.parts firstOrigin
  obtain ⟨rightParts, rightReadable, rightSame⟩ := rightRead.parts secondOrigin
  have urls := Locator.Parts.url_inj leftReadable rightReadable
  have locators : left = right ↔ leftParts = rightParts := by
    rw [← toLocator_inj, leftSame, rightSame]
    exact ⟨fun same => (Locator.Parts.url_inj leftReadable rightReadable).1 (congrArg _ same),
      congrArg _⟩
  rw [leftSame, rightSame, locators, Locator.Parts.equals_locator_iff]
  exact ⟨urls, urls⟩

/-- A colon belongs to a host in brackets or stands before a port, and the two are told apart, even
by addresses that are not read back as the locators that they stand for. -/
theorem url_ne_of_brackets :
    ∃ left right : ResolvedLocator, left.IsReadFrom none ∧
      right.IsReadFrom (some ⟨"https", "::1:80", false⟩) ∧
      left.url = "realms://[::1]:80/user\n".toList ∧
      right.url = "realms://[::1:80]/user\n".toList ∧
      left.url ≠ right.url ∧ left ≠ right := by
  have origins : ∀ o ∈ some (Origin.mk "https" "::1:80" false),
      ∃ url, Origin.ofUrl url = .ok o := by
    rintro o ⟨⟩
    exact ⟨.text "https://[::1:80]:443/auth", rfl⟩
  have leftRead : ResolvedLocator.IsReadFrom none
      ⟨⟨.text "realms", "::1", ["user\n"], .int 80, .text [], .text [], .null, by decide⟩,
        by decide⟩ :=
    ⟨"https://[::1]:80/~", _, .text "user\n", rfl, rfl⟩
  have rightRead : ResolvedLocator.IsReadFrom (some ⟨"https", "::1:80", false⟩)
      ⟨⟨.text "realms", "::1:80", ["user\n"], .null, .text [], .text [], .null, by decide⟩,
        by decide⟩ :=
    ⟨"/~", _, .text "user\n", rfl, rfl⟩
  have keys := url_eq_iff_of_isReadFrom (fun o mem => by cases mem) origins leftRead rightRead
  refine ⟨_, _, leftRead, rightRead, rfl, rfl, ?_, ?_⟩
  · intro same
    exact absurd (keys.2.1 same) (by decide)
  · intro same
    exact absurd (keys.1.2 same) (by decide)

end ResolvedLocator
end SyncedFile
