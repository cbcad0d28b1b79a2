import SyncedFile.Proofs.Locator.Resolved

/-!
# What resolving puts in place of placeholders

Resolving a locator fails for want of an identity, or for one that cannot be a segment, and
otherwise gives a resolved locator that differs from the first one in its placeholders alone. That
the resolved locator can be made at all is checked here step by step.

* `resolveStrictly`, `resolveStrictly_eq` — resolving where every step can end in a misuse of its
  own, and that none does;
* `ResolvedLocator.Fills` — the segments and the fields of a resolved locator;
* `ResolvesExactly`, `resolvesExactly` — all outcomes, for every locator and every value given as an
  identity.
-/

namespace SyncedFile

/-- The outcome is a failure of this kind. -/
def FailsAs {α : Type} (kind : FailureKind) (result : Except Failure α) : Prop :=
  ∃ failure, result = .error failure ∧ failure.kind = kind

/-- A resolved locator has the identity in place of each placeholder of a locator, and is that
locator in all else. -/
structure ResolvedLocator.Fills (resolved : ResolvedLocator) (locator : Locator)
    (identity : Value) : Prop where
  length_path : resolved.path.length = locator.path.length
  filled : ∀ k : Nat, locator.path[k]? = some Segment.placeholder →
    resolved.path[k]?.map Value.text = some identity
  kept : ∀ (k : Nat) (segment : Text), locator.path[k]? = some segment →
    segment ≠ Segment.placeholder → resolved.path[k]? = some segment
  gone : Segment.placeholder ∉ resolved.path
  scheme : resolved.scheme = locator.scheme
  host : resolved.host = locator.host
  port : resolved.port = locator.port
  query : resolved.query = locator.query
  fragment : resolved.fragment = locator.fragment
  userinfo : resolved.userinfo = locator.userinfo

namespace Locator

variable {locator : Locator} {value : Value}

/-! ## Strict resolving

Making a locator of no segments, or a resolved one that has a placeholder, is a misuse. Resolving
carries the proof that neither can come up. Here both steps fail by themselves. -/

/-- The resolved locator, made of its fields with all their checks. -/
def resolveStrictly (locator : Locator) (value : Value) : Except Fault ResolvedLocator := do
  if locator.hasPlaceholder && !value.isTruthy then
    throw (.failure (.missingIdentity locator.url .placeholder))
  if value.isTruthy then
    discard ((Identity.check value).mapError .failure)
  let made ← (ofSegments? locator.scheme locator.host
    (locator.path.map (fill (value.text?.getD []))) locator.port locator.query locator.fragment
    locator.userinfo).mapError .misuse
  (ResolvedLocator.ofLocator? made).mapError .misuse

theorem map_fill_of_notMem {path : List Text} (absent : Segment.placeholder ∉ path)
    (identity : Text) : path.map (fill identity) = path := by
  conv => rhs; rw [← List.map_id path]
  refine List.map_congr_left fun segment mem => if_neg ?_
  rintro rfl
  exact absent mem

theorem made_eq (identity : Text)
    (absent : Segment.placeholder ∉ locator.path.map (fill identity)) :
    (do
      let made ← (ofSegments? locator.scheme locator.host (locator.path.map (fill identity))
        locator.port locator.query locator.fragment locator.userinfo).mapError Fault.misuse
      (ResolvedLocator.ofLocator? made).mapError .misuse) =
    .ok ⟨{ locator with
      path := locator.path.map (fill identity)
      path_ne_nil := by simp [locator.path_ne_nil] }, absent⟩ := by
  have nonempty : locator.path.map (fill identity) ≠ [] := by simp [locator.path_ne_nil]
  rw [ofSegments?, dif_pos nonempty]
  exact congrArg (Except.mapError Fault.misuse) (dif_pos absent)

/-- Where every step can end in a misuse of its own, none does. -/
theorem resolveStrictly_eq (locator : Locator) (value : Value) :
    locator.resolveStrictly value = (locator.resolve value).mapError .failure := by
  cases given : value.isTruthy with
  | true =>
    simp only [resolveStrictly, resolve, given, Bool.not_true, Bool.and_false, Bool.false_eq_true,
      if_false, if_true]
    cases accepted : Identity.check value with
    | error failure => rfl
    | ok identity =>
      -- An identity that has passed its check is no placeholder, so that none is left.
      obtain rfl := Identity.eq_text_of_check accepted
      exact made_eq identity.text
        (placeholder_notMem_map_fill identity.text_ne_placeholder locator.path)
  | false =>
    simp only [resolveStrictly, resolve, given, Bool.not_false, Bool.and_true, Bool.false_eq_true,
      if_false, hasPlaceholder, decide_eq_true_eq]
    by_cases missing : Segment.placeholder ∈ locator.path
    · rw [if_pos missing, dif_neg (not_not_intro missing)]
      rfl
    · rw [if_neg missing, dif_pos missing]
      -- Filling is done for nobody here, and leaves the path as it is.
      have same := map_fill_of_notMem missing (value.text?.getD [])
      refine (made_eq (value.text?.getD []) (same.symm ▸ missing)).trans ?_
      simp only [same]
      rfl

/-! ## Outcomes -/

theorem resolve_eq_error_iff {failure : Failure} : locator.resolve value = .error failure ↔
    value.isTruthy = false ∧ locator.hasPlaceholder = true ∧
        .missingIdentity locator.url .placeholder = failure ∨
      value.isTruthy = true ∧ Identity.check value = .error failure := by
  cases given : value.isTruthy with
  | true =>
    simp only [resolve, given, if_true, reduceCtorEq, false_and, false_or, true_and]
    cases Identity.check value <;> simp
  | false =>
    simp only [resolve, given, Bool.false_eq_true, if_false, hasPlaceholder, decide_eq_true_eq,
      true_and, false_and, or_false]
    by_cases missing : Segment.placeholder ∈ locator.path
    · simp [missing]
    · simp [missing]

theorem kind_of_resolve {failure : Failure} (refused : locator.resolve value = .error failure) :
    failure.kind = .missingIdentity ∨ failure.kind = .validation := by
  rcases resolve_eq_error_iff.1 refused with ⟨-, -, rfl⟩ | ⟨-, checked⟩
  · exact .inl rfl
  · exact .inr (Identity.kind_of_check checked)

theorem fills_of_resolve {resolved : ResolvedLocator}
    (given : locator.resolve value = .ok resolved) : resolved.Fills locator value := by
  rcases resolve_eq_ok given with ⟨identity, rfl, rfl⟩ | ⟨-, absent, rfl⟩
  · have at_index (k : Nat) : (locator.substitute identity).path[k]? =
        locator.path[k]?.map (fill identity.text) := List.getElem?_map
    refine ⟨List.length_map _, fun k placeholder => ?_, fun k segment given other => ?_,
      (locator.substitute identity).resolved, rfl, rfl, rfl, rfl, rfl, rfl⟩
    · rw [at_index, placeholder, Option.map_some, fill, if_pos rfl]
      rfl
    · rw [at_index, given, Option.map_some, fill, if_neg other]
  · exact ⟨rfl, fun k placeholder => absurd (List.mem_of_getElem? placeholder) absent,
      fun k segment given _ => given, absent, rfl, rfl, rfl, rfl, rfl, rfl⟩

theorem resolve_resolved (resolved : ResolvedLocator)
    (accepted : value.isTruthy = true → ∃ who, Identity.check value = .ok who) :
    resolved.toLocator.resolve value = .ok resolved := by
  rw [resolve]
  split
  · next given =>
    obtain ⟨who, passed⟩ := accepted given
    -- Nothing is left to fill, whoever it is.
    have same := map_fill_of_notMem resolved.resolved who.text
    rw [passed]
    simp only [substitute, same]
  · exact dif_pos resolved.resolved

/-- The identity shows in every place that it has been put in. -/
theorem eq_of_fills {left right : Value} {one other : ResolvedLocator}
    (holds : Segment.placeholder ∈ locator.path) (forLeft : one.Fills locator left)
    (forRight : other.Fills locator right) (same : one.path = other.path) : left = right := by
  obtain ⟨k, placeholder⟩ := List.getElem?_of_mem holds
  have shown := forRight.filled k placeholder
  rw [← same] at shown
  exact Option.some.inj ((forLeft.filled k placeholder).symm.trans shown)

theorem path_eq_of_equals {one other : ResolvedLocator}
    (same : Address.equals (.resolved one) (.resolved other) = true) : one.path = other.path := by
  simp only [Address.equals, equals, Bool.and_eq_true, beq_iff_eq] at same
  exact same.1.1.1.1.2

/-- All outcomes of resolving a locator. -/
structure ResolvesExactly (locator : Locator) : Prop where
  /-- Where every step can end in a misuse of its own, none does. -/
  strict : ∀ value, locator.resolveStrictly value = (locator.resolve value).mapError .failure
  missing : ∀ value, FailsAs .missingIdentity (locator.resolve value) ↔
    locator.hasPlaceholder = true ∧ value.isTruthy = false
  refused : ∀ value, FailsAs .validation (locator.resolve value) ↔
    value.isTruthy = true ∧ ∃ failure, Identity.check value = .error failure
  filled : ∀ value, ¬(locator.hasPlaceholder = true ∧ value.isTruthy = false) →
    ¬(value.isTruthy = true ∧ ∃ failure, Identity.check value = .error failure) →
    ∃ resolved, locator.resolve value = .ok resolved ∧ resolved.Fills locator value
  again : ∀ value resolved, locator.resolve value = .ok resolved →
    ∀ other, other.isTruthy = false ∨ (∃ who, Identity.check other = .ok who) →
      resolved.toLocator.resolve other = .ok resolved
  apart : locator.hasPlaceholder = true → ∀ left right, left ≠ right →
    ∀ one other, locator.resolve left = .ok one → locator.resolve right = .ok other →
      Address.equals (.resolved one) (.resolved other) = false

/-- Whatever the segments of a locator are and whatever is given as an identity, resolving fails
for one of the two reasons or fills the placeholders. -/
theorem resolvesExactly (locator : Locator) : ResolvesExactly locator := by
  refine {
    strict := resolveStrictly_eq locator
    missing := fun value => ⟨?_, fun ⟨holds, falsy⟩ => ?_⟩
    refused := fun value => ⟨?_, fun ⟨truthy, failure, checked⟩ => ?_⟩
    filled := fun value noneMissing noneRefused => ?_
    again := fun value resolved given other accepted => ?_
    apart := fun holds left right different one other forLeft forRight => ?_ }
  · rintro ⟨failure, refused, kind⟩
    rcases resolve_eq_error_iff.1 refused with ⟨falsy, holds, -⟩ | ⟨-, checked⟩
    · exact ⟨holds, falsy⟩
    · rw [Identity.kind_of_check checked] at kind
      cases kind
  · exact ⟨_, resolve_eq_error_iff.2 (.inl ⟨falsy, holds, rfl⟩), rfl⟩
  · rintro ⟨failure, refused, kind⟩
    rcases resolve_eq_error_iff.1 refused with ⟨-, -, rfl⟩ | ⟨truthy, checked⟩
    · cases kind
    · exact ⟨truthy, failure, checked⟩
  · exact ⟨failure, resolve_eq_error_iff.2 (.inr ⟨truthy, checked⟩), Identity.kind_of_check checked⟩
  · cases given : locator.resolve value with
    | error failure =>
      rcases resolve_eq_error_iff.1 given with ⟨falsy, holds, -⟩ | ⟨truthy, checked⟩
      · exact absurd ⟨holds, falsy⟩ noneMissing
      · exact absurd ⟨truthy, failure, checked⟩ noneRefused
    | ok resolved => exact ⟨resolved, rfl, fills_of_resolve given⟩
  · refine resolve_resolved resolved fun truthy => ?_
    exact accepted.resolve_left (by rw [truthy]; decide)
  · refine Bool.eq_false_iff.2 fun same => different ?_
    have placeholder : Segment.placeholder ∈ locator.path := of_decide_eq_true holds
    exact eq_of_fills placeholder (fills_of_resolve forLeft) (fills_of_resolve forRight)
      (path_eq_of_equals same)

/-- A locator with two placeholders for nobody, for one who cannot be a segment, and for two others;
and one without a placeholder, where the check is made all the same. -/
theorem resolvesExactly_of_two_placeholders :
    let shared := onHost ["~", "a", "~"] (List.cons_ne_nil _ _)
    let plain := onHost ["a"] (List.cons_ne_nil _ _)
    FailsAs .missingIdentity (shared.resolve .null) ∧
      FailsAs .validation (plain.resolve (.text "..")) ∧
      ∃ one other : ResolvedLocator,
        shared.resolve (.text "u") = .ok one ∧ one.path = (["u", "a", "u"] : List Text) ∧
        one.toLocator.resolve (.text "v") = .ok one ∧
        shared.resolve (.text "v") = .ok other ∧
        Address.equals (.resolved one) (.resolved other) = false := by
  intro shared plain
  have identity (name : Text) (valid : Segment.isIdentity name = true) :
      Identity.check (.text name) = .ok ⟨name, valid⟩ := by
    simp only [Identity.check, Identity.ofValue?, dif_pos valid]
  have one : shared.resolve (.text "u") = .ok (shared.substitute ⟨"u", by decide⟩) := rfl
  have other : shared.resolve (.text "v") = .ok (shared.substitute ⟨"v", by decide⟩) := rfl
  refine ⟨((resolvesExactly shared).missing .null).2 ⟨rfl, rfl⟩,
    ((resolvesExactly plain).refused (.text "..")).2 ⟨rfl, _, rfl⟩, _, _, one, rfl, ?_, other, ?_⟩
  · exact (resolvesExactly shared).again _ _ one _ (.inr ⟨_, identity "v" (by decide)⟩)
  · exact (resolvesExactly shared).apart rfl (.text "u") (.text "v") (by simp) _ _ one other

end Locator
end SyncedFile
