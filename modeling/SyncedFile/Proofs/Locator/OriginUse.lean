import SyncedFile.Proofs.Locator.WellFormed

/-!
# What is asked of an origin

Normalising a raw identifier consults the origin only for what the identifier lacks: its security for
a scheme, its host for a host, and whether there is one at all for either.

* `AgreeFor` — two origins give the same for all that a URI lacks;
* `normalize_congr` — then both come to the same;
* `AsksForMissing`, `asksForMissing` — what that means for each thing that can be missing.
-/

namespace SyncedFile.Locator

variable {uri : Uri} {left right : Option Origin} {raw : Text}

/-- Two origins give the same for all that a URI lacks. -/
structure AgreeFor (uri : Uri) (left right : Option Origin) : Prop where
  given : uri.scheme = [] ∨ uri.host? = none → (left = none ↔ right = none)
  secure : uri.scheme = [] → left.any Origin.isSecure = right.any Origin.isSecure
  host : uri.host? = none → left.map Origin.host = right.map Origin.host
  octets : uri.host? = none → left.any Origin.inOctets = right.any Origin.inOctets

namespace AgreeFor

theorem schemeFor_eq (agree : AgreeFor uri left right) :
    schemeFor uri.scheme left = schemeFor uri.scheme right := by
  rw [schemeFor, schemeFor]
  split
  · next missing => rw [agree.secure missing]
  · rfl

theorem hostFor_eq (agree : AgreeFor uri left right) : hostFor uri left = hostFor uri right := by
  rw [hostFor, hostFor]
  cases named : uri.host? with
  | some host => rfl
  | none => rw [agree.host named]

theorem needsOctets_eq (agree : AgreeFor uri left right) :
    needsOctets uri left = needsOctets uri right := by
  rw [needsOctets, needsOctets]
  cases named : uri.host? with
  | some host => rfl
  | none => rw [agree.octets named]

/-- The locator that is checked is the same. -/
theorem assemble_eq (agree : AgreeFor uri left right) (raw : Text) (port : Option Nat) :
    assemble raw uri port left (hostFor uri left) =
      assemble raw uri port right (hostFor uri right) := by
  have parts : Parts.ofUri uri port left (hostFor uri left) =
      Parts.ofUri uri port right (hostFor uri right) := by
    simp only [Parts.ofUri, agree.schemeFor_eq, agree.hostFor_eq]
  rw [assemble_eq_checked, assemble_eq_checked, parts]

theorem missing_iff (agree : AgreeFor uri left right) :
    left = none ∧ (uri.scheme = [] ∨ uri.host? = none) ↔
      right = none ∧ (uri.scheme = [] ∨ uri.host? = none) :=
  and_congr_left agree.given

end AgreeFor

theorem normalizeText_congr (agree : ∀ uri, Uri.split raw = .ok uri → AgreeFor uri left right) :
    normalizeText raw left = normalizeText raw right := by
  rw [normalizeText, normalizeText]
  split
  · rfl
  · cases read : readUri raw with
    | error fault => rfl
    | ok both =>
      obtain ⟨uri, port⟩ := both
      have agree := agree uri (readUri_eq_ok_iff.1 read).1
      have same : assemble raw uri port left (uri.host?.getD ((left.map Origin.host).getD [])) =
          assemble raw uri port right (uri.host?.getD ((right.map Origin.host).getD [])) :=
        agree.assemble_eq raw port
      simp only [agree.missing_iff, agree.needsOctets_eq, same]

/-- What two origins give for an identifier is all that its outcome takes from them. -/
theorem normalize_congr (agree : ∀ uri, Uri.split raw = .ok uri → AgreeFor uri left right) :
    normalize (.text raw) left = normalize (.text raw) right := by
  cases raw with
  | nil => rfl
  | cons c rest => exact normalizeText_congr agree

theorem normalize_congr_of_split (read : Uri.split raw = .ok uri) (agree : AgreeFor uri left right) :
    normalize (.text raw) left = normalize (.text raw) right := by
  refine normalize_congr fun same readAgain => ?_
  obtain rfl := Except.ok.inj (read.symm.trans readAgain)
  exact agree

/-- Without an origin an identifier that lacks something is refused, be it for another reason or for
want of an origin. -/
theorem normalize_none_of_missing
    (missing : ∀ uri, Uri.split raw = .ok uri → uri.scheme = [] ∨ uri.host? = none) :
    ∃ failure, normalize (.text raw) none = .error (.failure failure) ∧
      (failure.kind = .malformedLocator ∨ failure = .missingField .authOrigin) := by
  cases raw with
  | nil => exact ⟨_, rfl, .inl rfl⟩
  | cons c rest =>
    rw [normalize_text (List.cons_ne_nil c rest), normalizeText]
    split
    · exact ⟨_, rfl, .inl rfl⟩
    · cases read : readUri (c :: rest) with
      | error fault => exact ⟨_, rfl, .inl rfl⟩
      | ok both =>
        obtain ⟨uri, port⟩ := both
        have lacks := missing uri (readUri_eq_ok_iff.1 read).1
        dsimp only
        split
        · exact ⟨_, rfl, .inl rfl⟩
        · exact ⟨_, if_pos ⟨rfl, lacks⟩, .inr rfl⟩

/-- The origin is consulted only for what a raw identifier lacks. -/
structure AsksForMissing (raw : Text) : Prop where
  /-- An absolute identifier comes to the same at every origin, and without one. -/
  complete : ∀ uri, Uri.split raw = .ok uri → uri.scheme ≠ [] → uri.host? ≠ none →
    ∀ left right : Option Origin, normalize (.text raw) left = normalize (.text raw) right
  /-- For a scheme it matters only whether the origin is secure. -/
  schemeless : ∀ uri, Uri.split raw = .ok uri → uri.scheme = [] → uri.host? ≠ none →
    ∀ left right : Origin, left.isSecure = right.isSecure →
      normalize (.text raw) (some left) = normalize (.text raw) (some right)
  /-- For a host the scheme of the origin does not matter. -/
  hostless : ∀ uri, Uri.split raw = .ok uri → uri.scheme ≠ [] → uri.host? = none →
    ∀ (origin : Origin) (scheme : Text),
      normalize (.text raw) (some { origin with scheme := scheme }) =
        normalize (.text raw) (some origin)
  /-- A missing origin is told of before anything is asked of it. -/
  originless : (∀ uri, Uri.split raw = .ok uri → uri.scheme = [] ∨ uri.host? = none) →
    ∃ failure, normalizeStrictly (.text raw) none = .error (.failure failure) ∧
      normalize (.text raw) none = .error (.failure failure) ∧
      (failure.kind = .malformedLocator ∨ failure = .missingField .authOrigin)

/-- Whatever the raw identifier is, the origin is consulted only for what it lacks. -/
theorem asksForMissing (raw : Text) : AsksForMissing raw where
  complete uri read scheme host left right :=
    normalize_congr_of_split read {
      given := fun lacks => (lacks.elim scheme host).elim
      secure := fun missing => absurd missing scheme
      host := fun missing => absurd missing host
      octets := fun missing => absurd missing host }
  schemeless uri read _ host left right secure :=
    normalize_congr_of_split read {
      given := fun _ => iff_of_false nofun nofun
      secure := fun _ => secure
      host := fun missing => absurd missing host
      octets := fun missing => absurd missing host }
  hostless uri read scheme _ origin other :=
    normalize_congr_of_split read {
      given := fun _ => iff_of_false nofun nofun
      secure := fun missing => absurd missing scheme
      host := fun _ => rfl
      octets := fun _ => rfl }
  originless missing := by
    obtain ⟨failure, refused, kind⟩ := normalize_none_of_missing missing
    refine ⟨failure, ?_, refused, kind⟩
    rw [normalizeStrictly_eq, refused]

/-- What is asked of the origin for an absolute identifier, for one without a scheme, for one whose
authority has no host, and for a path. -/
theorem asksForMissing_of_each_form :
    let web : Origin := ⟨"https", "auth.example.com", false⟩
    normalize (.text "realm://h/~/notes") (some web) = normalize (.text "realm://h/~/notes") none ∧
    normalize (.text "//h/~/notes") (some web) =
      normalize (.text "//h/~/notes") (some ⟨"HTTPS", "other.example.com", false⟩) ∧
    normalize (.text "realm://who@:9080/~/notes") (some { web with scheme := "http" }) =
      normalize (.text "realm://who@:9080/~/notes") (some web) ∧
    ∃ failure, normalize (.text "/~/notes") none = .error (.failure failure) ∧
      (failure.kind = .malformedLocator ∨ failure = .missingField .authOrigin) := by
  intro web
  refine ⟨?_, ?_, ?_, ?_⟩
  · exact (asksForMissing _).complete _ rfl (by decide) (by decide) _ _
  · exact (asksForMissing _).schemeless _ rfl rfl (by decide) _ _ (by decide)
  · exact (asksForMissing _).hostless _ rfl (by decide) (by decide) _ _
  · obtain ⟨failure, -, refused, kind⟩ := (asksForMissing "/~/notes").originless fun uri read => by
      obtain rfl := Except.ok.inj read
      exact .inl rfl
    exact ⟨failure, refused, kind⟩

end SyncedFile.Locator
