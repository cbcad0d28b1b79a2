import SyncedFile.Proofs.Locator.RoundTrip

/-!
# What normalising comes to

Normalising a raw identifier either gives a locator or fails. The failure may show the identifier;
apart from that it is decided by the parts alone.

* `outcome` — a locator or the kind of the failure;
* `Fault.about` — a failure as it shows another identifier;
* `checked_about`, `assemble_about`, `kind_assemble` — the checks of a path, and that equal parts
  come to the same;
* `pathKinds`, `kind_mem_of_checked` — the kinds of what these checks find;
* `normalize_of_split`, `normalize_of_foreign` — normalising an identifier that has been taken apart,
  or that holds characters that no URI holds.
-/

namespace SyncedFile

/-- The failure with another raw identifier in place of the one that it shows, if it shows one. -/
def Failure.about (raw : Value) : Failure → Failure
  | .malformed _ why => .malformed raw why
  | .relativeSegment segment _ => .relativeSegment segment raw
  | .illegalSegment segment _ => .illegalSegment segment raw
  | failure => failure

@[simp] theorem Failure.kind_about (raw : Value) (failure : Failure) :
    (failure.about raw).kind = failure.kind := by
  cases failure <;> rfl

/-- The fault as it shows another raw identifier. No misuse shows one. -/
def Fault.about (raw : Value) : Fault → Fault
  | .failure cause => .failure (cause.about raw)
  | .misuse cause => .misuse cause

def Fault.kind? : Fault → Option FailureKind
  | .failure cause => some cause.kind
  | .misuse _ => none

namespace Locator

/-- What normalising comes to: a locator or the kind of the failure. -/
def outcome (raw : Text) (origin : Option Origin) : Except (Option FailureKind) Locator :=
  (normalize (.text raw) origin).mapError Fault.kind?

/-! ## Checking a path -/

/-- What is wrong with a segment does not depend on the identifier. -/
theorem check_about (left right : Value) (segment : Text) :
    Segment.check right segment =
      (Segment.check left segment).mapError (Failure.about right) := by
  simp only [Segment.check]
  split
  · rfl
  · split
    · rfl
    · split <;> rfl

theorem checkAll_about (left right : Value) (segments : List Text) :
    Segment.checkAll right segments =
      (Segment.checkAll left segments).mapError (Failure.about right) := by
  induction segments with
  | nil => rfl
  | cons segment rest ih =>
    rw [Segment.checkAll, Segment.checkAll, check_about left right]
    cases Segment.check left segment with
    | error failure => rfl
    | ok => exact ih

theorem about_of_checkSuffix {name : Text} {failure : Failure}
    (refused : Segment.checkSuffix name = .error failure) (raw : Value) :
    failure.about raw = failure := by
  rw [Segment.checkSuffix] at refused
  split at refused
  · cases refused
    rfl
  · cases refused

/-- What is wrong with a path does not depend on the identifier. -/
theorem checked_about (left right : Text) (locator : Locator) :
    checked right locator = (checked left locator).mapError (Failure.about (.text right)) := by
  simp only [checked, bind, Except.bind, checkAll_about (.text left) (.text right)]
  cases Segment.checkAll (.text left) locator.path with
  | error failure => rfl
  | ok =>
    unfold Except.mapError
    dsimp only
    split
    · next name named =>
      cases suffix : Segment.checkSuffix name with
      | error failure => exact congrArg Except.error (about_of_checkSuffix suffix _).symm
      | ok => rfl
    · rfl

theorem kind_of_checkAll {raw : Value} {segments : List Text} {failure : Failure}
    (refused : Segment.checkAll raw segments = .error failure) :
    failure.kind = .invalidSegment ∨ failure.kind = .invalidCharacter := by
  induction segments with
  | nil => cases refused
  | cons segment rest ih =>
    rw [Segment.checkAll] at refused
    split at refused
    · next single =>
      cases refused
      rw [Segment.check] at single
      split at single
      · cases single
      · split at single
        · cases single
          exact .inl rfl
        · split at single
          · cases single
          · cases single
            exact .inr rfl
    · exact ih refused

theorem kind_of_checkSuffix {name : Text} {failure : Failure}
    (refused : Segment.checkSuffix name = .error failure) : failure.kind = .reservedSuffix := by
  rw [Segment.checkSuffix] at refused
  split at refused
  · cases refused
    rfl
  · cases refused

/-- The kinds of what can be wrong with a path. -/
def pathKinds : List FailureKind :=
  [.invalidSegment, .invalidCharacter, .reservedSuffix]

theorem kind_mem_of_checked {raw : Text} {locator : Locator} {failure : Failure}
    (refused : checked raw locator = .error failure) : failure.kind ∈ pathKinds := by
  simp only [checked, bind, Except.bind] at refused
  split at refused
  · next segments =>
    cases refused
    rcases kind_of_checkAll segments with kind | kind <;> rw [kind] <;> decide
  · split at refused
    · split at refused
      · next suffix =>
        cases refused
        rw [kind_of_checkSuffix suffix]
        decide
      · cases refused
    · cases refused

theorem kind_of_empty {locator : Locator} (path : locator.path = [[]]) (raw : Text) :
    ((checked raw locator).mapError Fault.failure).mapError Fault.kind? =
      .error (some .invalidCharacter) := by
  simp only [checked, path]
  rfl

theorem assemble_eq_checked (raw : Text) (uri : Uri) (port : Option Nat) (origin : Option Origin)
    (host : Text) :
    assemble raw uri port origin host = checked raw (Parts.ofUri uri port origin host).locator :=
  rfl

section

variable {uri uri' : Uri} {port port' : Option Nat} {origin origin' : Option Origin}
  {host host' : Text}

/-- URIs that give the same parts come to the same, whatever identifiers they were read from. -/
theorem assemble_about
    (same : Parts.ofUri uri port origin host = Parts.ofUri uri' port' origin' host')
    (raw raw' : Text) :
    assemble raw' uri' port' origin' host' =
      (assemble raw uri port origin host).mapError (Failure.about (.text raw')) := by
  rw [assemble_eq_checked, assemble_eq_checked, same]
  exact checked_about _ _ _

theorem kind_assemble
    (same : Parts.ofUri uri port origin host = Parts.ofUri uri' port' origin' host')
    (raw raw' : Text) :
    ((assemble raw uri port origin host).mapError Fault.failure).mapError Fault.kind? =
      ((assemble raw' uri' port' origin' host').mapError Fault.failure).mapError Fault.kind? := by
  rw [assemble_about same raw raw']
  cases assemble raw uri port origin host with
  | error failure =>
    exact congrArg (Except.error ∘ some) (Failure.kind_about _ failure).symm
  | ok => rfl

theorem faultInOctets_about (same : uri.path = uri'.path) (raw raw' : Text) :
    faultInOctets raw' uri' = (faultInOctets raw uri).about (.text raw') := by
  simp only [faultInOctets, pathSegments, same, checked_about raw raw']
  cases checked raw _ <;> rfl

end

/-! ## Identifiers that are taken apart -/

/-- What a raw identifier with an absolute path comes to once it has been taken apart, where no host
in octets is needed. -/
theorem normalize_of_split {raw : Text} {uri : Uri} {port : Option Nat} {origin : Option Origin}
    (inText : needsOctets uri origin = false) (chars : hasUriChars raw = true)
    (read : Uri.split raw = .ok uri)
    (ported : uri.port? = .ok port) (rooted : uri.path.head? = some '/')
    (complete : origin = none → uri.scheme ≠ [] ∧ uri.host? ≠ none) :
    normalize (.text raw) origin =
      if uri.path = ['/'] then .error (.failure (.malformed (.text raw) .withoutPath))
      else (assemble raw uri port origin (hostFor uri origin)).mapError .failure := by
  have nonempty : raw ≠ [] := by
    rintro rfl
    cases chars
  have path : uri.path ≠ [] := by
    intro empty
    rw [empty] at rooted
    cases rooted
  have hierarchical : ¬(uri.scheme ≠ [] ∧ uri.authority = [] ∧ uri.path.head? ≠ some '/') :=
    fun form => form.2.2 rooted
  have present : ¬(origin = none ∧ (uri.scheme = [] ∨ uri.host? = none)) := fun missing =>
    missing.2.elim (complete missing.1).1 (complete missing.1).2
  rw [normalize_text nonempty, normalizeText, chars]
  simp only [Bool.not_true, Bool.false_eq_true, if_false, readUri_eq_ok_iff.2 ⟨read, ported⟩,
    if_neg hierarchical, if_neg present, path, false_or, inText]
  rfl

theorem normalize_of_foreign {raw : Text} (nonempty : raw ≠ []) (chars : hasUriChars raw = false)
    (origin : Option Origin) :
    normalize (.text raw) origin =
      .error (.failure (.malformed (.text raw) .forbiddenCharacter)) := by
  rw [normalize_text nonempty, normalizeText, chars]
  rfl

theorem outcome_of_foreign {raw : Text} (nonempty : raw ≠ []) (chars : hasUriChars raw = false)
    (origin : Option Origin) : outcome raw origin = .error (some .malformedLocator) := by
  rw [outcome, normalize_of_foreign nonempty chars]
  rfl

end Locator
end SyncedFile
