import Mathlib.Data.List.Forall2
import SyncedFile.Proofs.Builder.Exchange
import SyncedFile.Proofs.Builder.History
import SyncedFile.Proofs.Builder.Invariant

/-!
# The encryption key stays hidden

A builder is handed its encryption key among other options. Whatever it is used for, nothing that
can be seen of it depends on which key that is: not what its calls come to, not its messages, events
and calls of collaborators, and not what the configuration shows. A value that is refused as a key
shows no more than its type and its length.

* `EncryptionKey.check_cases` — what is looked at in a value that is handed in as a key;
* `EncryptionKey.Exchanged`, `Setting.SameButKey` — other keys in place of those handed in;
* `Configuration.shown`, `Builder.observations`, `Builder.session` — what can be seen;
* `Builder.SameButKey`, `Builder.call_of_sameButKey` — one call of builders with different keys;
* `Builder.session_of_sameButKey` — all that can be seen, from the beginning.
-/

namespace SyncedFile

/-! ## Values that are handed in as keys -/

def Value.size? : Value → Option Nat
  | .text t => some t.length
  | .octets _ bytes => some bytes.length
  | .list items => some items.length
  | .tuple items => some items.length
  | .dict entries => some entries.length
  | _ => none

namespace EncryptionKey

def types : List Text := ["bytes", "bytearray", "memoryview"]

/-- What is reported of a value of some type and length that is no key. -/
def refusal (type : Text) (size : Option Nat) : ArgumentFault :=
  if type = "NoneType" then .nullKey
  else if type ∈ types then .keyLength (size.getD 0)
  else .keyNotOctets type

theorem typeName_mem_types (kind : OctetKind) (bytes : List UInt8) :
    (Value.octets kind bytes).typeName ∈ types := by
  cases kind
  · exact .head _
  · exact .tail _ (.head _)
  · exact .tail _ (.tail _ (.head _))

/-- Whether a value is a key depends on its type and its length, and so does what is reported of a
value that is none. -/
theorem check_cases (value : Value) :
    (value.typeName ∈ types ∧ value.size? = some length ∧ ∃ key, check value = .ok key) ∨
      (¬ (value.typeName ∈ types ∧ value.size? = some length) ∧
        check value = .error (.invalidArgument (refusal value.typeName value.size?))) := by
  cases value with
  | octets kind bytes =>
    have type := typeName_mem_types kind bytes
    -- None of the types that a key may have is that of the absent value.
    have present : (Value.octets kind bytes).typeName ≠ "NoneType" := by
      intro null
      rw [null] at type
      exact absurd type (by decide)
    by_cases fits : bytes.length = 64
    · exact .inl ⟨type, congrArg some fits, _, dif_pos fits⟩
    · refine .inr ⟨fun both => fits (Option.some.inj both.2), ?_⟩
      rw [refusal, if_neg present, if_pos type]
      exact dif_neg fits
  | null => exact .inr ⟨fun both => absurd both.1 (by decide), rfl⟩
  | _ =>
    refine .inr ⟨not_and_of_not_left _ ?_, ?_⟩
    · unfold Value.typeName
      dsimp only
      decide
    · unfold refusal Value.typeName
      dsimp only
      rfl

theorem check_of_same {value other : Value} (type : value.typeName = other.typeName)
    (size : value.size? = other.size?) :
    (∃ key otherKey, check value = .ok key ∧ check other = .ok otherKey) ∨
      ∃ why, check value = .error why ∧ check other = .error why := by
  have first := check_cases value
  have second := check_cases other
  rw [← type, ← size] at second
  obtain ⟨mem, fits, key, accepted⟩ | ⟨unfit, refused⟩ := first
  · obtain ⟨-, -, otherKey, otherAccepted⟩ | ⟨unfit, -⟩ := second
    · exact .inl ⟨key, otherKey, accepted, otherAccepted⟩
    · exact absurd ⟨mem, fits⟩ unfit
  · obtain ⟨mem, fits, -⟩ | ⟨-, otherRefused⟩ := second
    · exact absurd ⟨mem, fits⟩ unfit
    · exact .inr ⟨_, refused, otherRefused⟩

/-- Another value in place of one that is handed in as a key: a key for a key, and for a value that
is refused another one of its type and length. -/
inductive Exchanged (value other : Value) : Prop where
  | accepted {key otherKey : EncryptionKey} (given : check value = .ok key)
      (otherGiven : check other = .ok otherKey)
  | refused {failure : Failure} (given : check value = .error failure)
      (type : value.typeName = other.typeName) (size : value.size? = other.size?)

/-- Both values are keys, or the same is reported of them. -/
theorem Exchanged.cases {value other : Value} (exchanged : Exchanged value other) :
    (∃ key otherKey, check value = .ok key ∧ check other = .ok otherKey) ∨
      ∃ why, check value = .error why ∧ check other = .error why := by
  cases exchanged with
  | accepted given otherGiven => exact .inl ⟨_, _, given, otherGiven⟩
  | refused given type size => exact check_of_same type size

end EncryptionKey

/-- The same setting, or one that hands in another key. -/
inductive Setting.SameButKey : Setting → Setting → Prop where
  | refl (setting : Setting) : SameButKey setting setting
  | encryptionKey {value other : Value} (exchanged : EncryptionKey.Exchanged value other) :
      SameButKey (.encryptionKey value) (.encryptionKey other)

/-! ## What can be seen -/

/-- What a configuration shows: all its fields but the key, what diagnostics show, and its
literal. -/
structure Configuration.Shown where
  fields : Configuration
  description : List (Text × Value)
  literal : Text

def Configuration.shown (c : Configuration) : Configuration.Shown where
  fields := { c with encryptionKey := none }
  description := c.describe
  literal := c.literal

/-- A configuration shows of its key only whether it has one. -/
theorem Configuration.shown_eq (c : Configuration) {key : Option EncryptionKey}
    (same : key.isSome = c.encryptionKey.isSome) :
    { c with encryptionKey := key }.shown = c.shown := by
  simp only [shown, describe, same]
  rfl

namespace Builder

/-- What can be seen of a call: what it comes to, and the surroundings afterwards with all calls of
collaborators and all events. -/
structure Observation where
  outcome : Except Fault (Option Configuration.Shown)
  surroundings : Surroundings

def observe (called : Except Fault (Option Configuration) × Builder × Surroundings) :
    Observation where
  outcome := called.1.map (·.map Configuration.shown)
  surroundings := called.2.2

/-- What can be seen of calls, one after the other. -/
def observations : List Use → Builder × Surroundings → List Observation
  | [], _ => []
  | use :: uses, state => observe (call use state) :: observations uses (call use state).2

/-- What can be seen of a builder from the beginning: what making it comes to, the surroundings
then, and its calls. -/
structure Session where
  made : Except Fault (Option Locator)
  surroundings : Surroundings
  observations : List Observation

def session (owner : Option Owner) (raw : Value) (origin : Option Origin) (defaults : Defaults)
    (uses : List Use) (s : Surroundings) : Session :=
  match (Builder.make owner raw origin defaults).run s with
  | (.error fault, t) => ⟨.error fault, t, []⟩
  | (.ok builder, t) => ⟨.ok builder.locator, t, observations uses (builder, t)⟩

/-! ## Calls with other keys -/

/-- Calls in which other keys are handed in. -/
inductive Use.SameButKey : Use → Use → Prop where
  | set {setting other : Setting} (same : setting.SameButKey other) :
      SameButKey (.set setting) (.set other)
  | build : SameButKey .build .build

/-- A builder with another key, if it has one. -/
def SameButKey (builder other : Builder) : Prop :=
  ∃ key, key.isSome = builder.options.encryptionKey.isSome ∧
    other = builder.exchange key builder.options.modules

variable {builder other : Builder}

theorem set_of_sameButKey (same : SameButKey builder other) {setting otherSetting : Setting}
    (settings : setting.SameButKey otherSetting) :
    (∃ next otherNext, builder.set setting = .ok next ∧ other.set otherSetting = .ok otherNext ∧
        SameButKey next otherNext) ∨
      ∃ fault, builder.set setting = .error fault ∧ other.set otherSetting = .error fault := by
  obtain ⟨key, given, rfl⟩ := same
  by_cases consumed : builder.consumed = true
  · exact .inr ⟨_, if_pos consumed, if_pos consumed⟩
  · have fresh : ¬ (builder.exchange key builder.options.modules).consumed = true := consumed
    rw [set, set, if_neg consumed, if_neg fresh]
    cases settings with
    | refl =>
      obtain ⟨update, updates, accepted⟩ | ⟨fault, -, refused⟩ := Options.set_cases setting
      · rw [accepted, accepted]
        refine .inl ⟨_, _, rfl, rfl, ?_⟩
        -- A key that is set is the same for both; any other setting leaves the keys alone.
        cases updates with
        | encryptionKey => exact ⟨_, rfl, rfl⟩
        | _ => exact ⟨key, given, rfl⟩
      · rw [refused, refused]
        exact .inr ⟨fault, rfl, rfl⟩
    | encryptionKey exchanged =>
      obtain ⟨first, second, accepted, otherAccepted⟩ | ⟨why, refused, otherRefused⟩ :=
        exchanged.cases
      · rw [(Setting.Updates.encryptionKey accepted).set_eq_ok,
          (Setting.Updates.encryptionKey otherAccepted).set_eq_ok]
        exact .inl ⟨_, _, rfl, rfl, some second, rfl, rfl⟩
      · simp only [Options.set, Options.stage, refused, otherRefused]
        exact .inr ⟨_, rfl, rfl⟩

theorem conclude_exchange_key (builder : Builder) (key : Option EncryptionKey)
    (prepared : Prepared) :
    (builder.exchange key builder.options.modules).conclude prepared =
      (fun built => ({ built.1 with encryptionKey := key }, built.2)) <$>
        builder.conclude prepared := by
  simp only [conclude, map_bind, map_pure]
  rfl

/-- A build shows no difference between keys. -/
theorem build_of_sameButKey (same : SameButKey builder other) (s : Surroundings) :
    (builder.build s).1.map Configuration.shown = (other.build s).1.map Configuration.shown ∧
      SameButKey (builder.build s).2.1 (other.build s).2.1 ∧
      (builder.build s).2.2 = (other.build s).2.2 := by
  obtain ⟨key, given, rfl⟩ := same
  rw [build_exchange (fun c => { c with encryptionKey := key }) (conclude_exchange_key builder key)
    fun _ _ => rfl]
  have options : (builder.build s).2.1.options = builder.options := by
    rw [build]
    split <;> rfl
  refine ⟨?_, ⟨key, options ▸ given, options ▸ rfl⟩, rfl⟩
  cases built : (builder.build s).1 with
  | error fault => rfl
  | ok c =>
    obtain ⟨prepared, canonical, schema, -, rfl⟩ := eq_configuration_of_build built
    exact congrArg Except.ok (Configuration.shown_eq _ given).symm

theorem call_of_sameButKey (same : SameButKey builder other) {use otherUse : Use}
    (uses : Use.SameButKey use otherUse) (s : Surroundings) :
    observe (call use (builder, s)) = observe (call otherUse (other, s)) ∧
      ∃ next otherNext t, (call use (builder, s)).2 = (next, t) ∧
        (call otherUse (other, s)).2 = (otherNext, t) ∧ SameButKey next otherNext := by
  cases uses with
  | set settings =>
    rw [call, call, stage_run, stage_run]
    obtain ⟨next, otherNext, accepted, otherAccepted, after⟩ | ⟨fault, refused, otherRefused⟩ :=
      set_of_sameButKey same settings
    · rw [accepted, otherAccepted]
      exact ⟨rfl, next, otherNext, s, rfl, rfl, after⟩
    · rw [refused, otherRefused]
      exact ⟨rfl, builder, other, s, rfl, rfl, same⟩
  | build =>
    obtain ⟨shown, after, surroundings⟩ := build_of_sameButKey same s
    -- A call may come to nothing, so what a build shows is wrapped once more.
    have lift (result : Except Fault Configuration) :
        (result.map some).map (·.map Configuration.shown) =
          (result.map Configuration.shown).map some := by
      cases result <;> rfl
    refine ⟨?_, _, _, (builder.build s).2.2, rfl, congrArg _ surroundings.symm, after⟩
    show Observation.mk (((builder.build s).1.map some).map _) (builder.build s).2.2 =
      Observation.mk (((other.build s).1.map some).map _) (other.build s).2.2
    rw [lift, lift, shown, surroundings]

theorem observations_of_sameButKey {uses others : List Use}
    (keys : List.Forall₂ Use.SameButKey uses others) (same : SameButKey builder other)
    (s : Surroundings) : observations uses (builder, s) = observations others (other, s) := by
  induction keys generalizing builder other s with
  | nil => rfl
  | cons first _ ih =>
    -- The first call leaves the same surroundings, and builders that differ in their keys only.
    obtain ⟨seen, next, otherNext, t, left, right, after⟩ := call_of_sameButKey same first s
    rw [observations, observations, seen, left, right, ih after]

/-- Nothing that can be seen of a builder, from making it to what its configurations show, depends
on which keys are handed in. Of values that are refused as keys only the type and the length
show. -/
theorem session_of_sameButKey {uses others : List Use}
    (keys : List.Forall₂ Use.SameButKey uses others) (owner : Option Owner) (raw : Value)
    (origin : Option Origin) (defaults : Defaults) (s : Surroundings) :
    session owner raw origin defaults uses s = session owner raw origin defaults others s := by
  rw [session, session]
  split
  · rfl
  · next builder t _ =>
    have same : SameButKey builder builder := ⟨_, rfl, rfl⟩
    rw [observations_of_sameButKey keys same]

/-- A key that is too short is refused, another one is accepted, and the configuration is built. -/
theorem session_of_two_keys :
    let uses (short whole : UInt8) : List Use :=
      [.set (.encryptionKey (.octets .editable (List.replicate 63 short))),
        .set (.encryptionKey (.octets .fixed (List.replicate 64 whole))), .build]
    let seen (short whole : UInt8) : Session :=
      session (some (.fixed (.text "user42") (.bool true))) (.text "realm://h/~/default") none
        { root := .text "/data" } (uses short whole) {}
    seen 0 1 = seen 7 2 ∧
      (seen 0 1).observations.map (fun o => o.outcome.toOption.map (·.isSome)) =
        [none, some false, some true] := by
  intro uses seen
  have short : EncryptionKey.Exchanged (.octets .editable (List.replicate 63 0))
      (.octets .editable (List.replicate 63 7)) := .refused rfl rfl rfl
  have whole : EncryptionKey.Exchanged (.octets .fixed (List.replicate 64 1))
      (.octets .fixed (List.replicate 64 2)) := .accepted rfl rfl
  have keys : List.Forall₂ Use.SameButKey (uses 0 1) (uses 7 2) :=
    .cons (.set (.encryptionKey short)) (.cons (.set (.encryptionKey whole)) (.cons .build .nil))
  exact ⟨session_of_sameButKey keys _ _ _ _ _, by decide +kernel⟩

end Builder
end SyncedFile
