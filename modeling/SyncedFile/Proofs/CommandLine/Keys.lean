import SyncedFile.CommandLine.Run
import SyncedFile.Proofs.Text.Hexadecimal
import SyncedFile.Proofs.Text.Wrapped

/-!
# Keys that can be made again

A key that is derived from a password is shown with its salt, and password and salt are all that is
needed to make it again: the salt is shown in the form in which it is read. A salt that cannot be
read, or that has no octets, is refused before there is any key to show. A password that is no text
breaks the run off, since a key is derived from octets in UTF-8.

* `SaltOf` — the octets that a salt option stands for;
* `keygen_of_salt`, `keygen_of_halves`, `keygen_refused` — how a run for a password ends;
* `Reproducible`, `Refused`, `reproducible_keygen` — what every run for a password comes to.
-/

namespace SyncedFile

/-! ## Keys of passwords -/

namespace EncryptionKey

/-- The key for a password and a salt in the usual number of iterations. -/
def ofPassword (password : Text) (salt : List UInt8) : EncryptionKey where
  bytes := Digest.derive (Text.utf8 password) salt iterations
  length_bytes := Digest.length_derive _ _ _

variable {password : Points} {salt : List UInt8}

theorem derive_eq (present : password ≠ []) (salted : salt ≠ []) :
    derive password salt iterations =
      match password.text? with
      | none => .error (.misuse (.unencodable password))
      | some text => .ok (ofPassword text salt) := by
  rw [derive, if_neg present, if_neg salted]
  rfl

theorem derive_of_empty_salt (present : password ≠ []) (count : Int) :
    derive password [] count = .error (.failure (.invalidArgument .emptySalt)) := by
  rw [derive, if_neg present, if_pos rfl]

theorem check_bytes (key : EncryptionKey) : check (.octets .fixed key.bytes) = .ok key := by
  rw [check, dif_pos key.length_bytes]

end EncryptionKey

namespace CommandLine

/-! ## Errors on the terminal -/

/-- Printing puts nothing but spaces and line breaks into a text. -/
theorem mem_printed {width : Nat} {markup : Text} {c : Char} (mem : c ∈ printed width markup) :
    c ∈ appearance markup ∨ c = ' ' ∨ c = '\n' := by
  obtain ⟨line, set, mem⟩ := List.mem_flatMap.1 mem
  rcases List.mem_append.1 mem with inLine | lineBreak
  · exact (Text.mem_wrap set inLine).imp_right .inl
  · exact .inr (.inr (List.mem_singleton.1 lineBreak))

/-- A run that ends with an error, and shows no key. -/
structure Outcome.Refused (outcome : Outcome) : Prop where
  exitCode : outcome.exitCode = 1
  err : outcome.err = []
  misuse : outcome.misuse = none
  noKey : ∀ line ∈ Text.splitOn '\n' outcome.out, ¬"key:".toList <+: line

/-- An error without the letter that a line with a key begins with is no such line, however it is
broken into lines. -/
theorem refused_ofError (environment : Environment) {message : Text}
    (absent : 'k' ∉ appearance (Markup.styled "red" ("Error: " ++ Markup.escape message))) :
    (Outcome.ofError environment message).Refused := by
  refine ⟨rfl, rfl, rfl, ?_⟩
  intro line given begins
  have inLine : 'k' ∈ line := begins.subset (by decide)
  rcases mem_printed (Text.mem_of_mem_splitOn given inLine) with shown | space | lineBreak
  · exact absent shown
  · exact absurd space (by decide)
  · exact absurd lineBreak (by decide)

/-! ## Salts -/

variable {environment : Environment} {password : Points} {salt : Option Points}
  {octets : List UInt8}

/-- The octets that a salt option stands for: random ones where it is absent or empty, and otherwise
those that it gives in hexadecimal, one at least. -/
inductive SaltOf (environment : Environment) : Option Points → List UInt8 → Prop where
  | absent : SaltOf environment none (environment.random 16)
  | empty : SaltOf environment (some []) (environment.random 16)
  | given {t : Text} {octets : List UInt8} :
      Text.Hex.Spells t octets → octets ≠ [] → SaltOf environment (some t.points) octets

/-- A salt that is not empty is decoded as a text. -/
theorem saltBytes?_of_cons (password : Option Points) {point : Point} {rest : Points}
    (given : salt = some (point :: rest)) :
    KeyRequest.saltBytes? { password := password, salt := salt } environment =
      (Points.text? (point :: rest)).bind Text.Hex.decode := by
  subst given
  rfl

theorem SaltOf.saltBytes? (stands : SaltOf environment salt octets) (password : Option Points) :
    KeyRequest.saltBytes? { password := password, salt := salt } environment = some octets := by
  cases stands with
  | absent => rfl
  | empty => rfl
  | @given t octets spells nonempty =>
    cases t with
    | nil =>
      cases spells
      exact absurd rfl nonempty
    | cons c rest =>
      rw [Points.points_cons, saltBytes?_of_cons password rfl, ← Points.points_cons,
        Points.text?_points]
      exact Text.Hex.decode_eq_some_iff.2 spells

theorem SaltOf.ne_nil (draws : ∀ n, (environment.random n).length = n)
    (stands : SaltOf environment salt octets) : octets ≠ [] := by
  have drawn : environment.random 16 ≠ [] :=
    List.ne_nil_of_length_pos (by rw [draws]; decide)
  cases stands with
  | absent => exact drawn
  | empty => exact drawn
  | given _ nonempty => exact nonempty

theorem saltOf_encode (later : Environment) (nonempty : octets ≠ []) :
    SaltOf later (some (Text.points (Text.Hex.encode octets))) octets :=
  .given (Text.Hex.decode_eq_some_iff.1 (Text.Hex.decode_encode octets)) nonempty

/-- An option that stands for no salt is one that cannot be read, or is read as no octets. -/
theorem saltBytes?_of_unsalted (unsalted : ¬∃ octets, SaltOf environment salt octets)
    (password : Option Points) :
    KeyRequest.saltBytes? { password := password, salt := salt } environment = none ∨
      KeyRequest.saltBytes? { password := password, salt := salt } environment = some [] := by
  rcases salt with _ | _ | ⟨point, rest⟩
  · exact absurd ⟨_, .absent⟩ unsalted
  · exact absurd ⟨_, .empty⟩ unsalted
  · rw [saltBytes?_of_cons password rfl]
    cases read : (Points.text? (point :: rest)).bind Text.Hex.decode with
    | none => exact .inl rfl
    | some octets =>
      by_cases empty : octets = []
      · exact .inr (congrArg some empty)
      · -- What has been read is a text that spells octets.
        obtain ⟨t, isText, decoded⟩ := Option.bind_eq_some_iff.1 read
        have stands : SaltOf environment (some t.points) octets :=
          .given (Text.Hex.decode_eq_some_iff.1 decoded) empty
        rw [← Points.text?_eq_some_iff.1 isText] at stands
        exact absurd ⟨octets, stands⟩ unsalted

/-! ## Runs -/

/-- A run that shows a key and a salt, and nothing else. -/
structure Outcome.Shows (outcome : Outcome) (key salt : Text) : Prop where
  exitCode : outcome.exitCode = 0
  out : outcome.out = "key:  " ++ key ++ "\nsalt: " ++ salt ++ ['\n']
  err : outcome.err = []
  misuse : outcome.misuse = none

/-- A run that a misuse breaks off before anything is shown. -/
structure Outcome.BreaksOff (outcome : Outcome) (misuse : Misuse) : Prop where
  exitCode : outcome.exitCode = 1
  out : outcome.out = []
  err : outcome.err = []
  misuse : outcome.misuse = some misuse

theorem keygen_of_salt {text : Text} (isText : password.text? = some text) (present : password ≠ [])
    (nonempty : octets ≠ []) (stands : SaltOf environment salt octets) :
    (keygen environment { password := some password, salt := salt }).Shows
      (Text.Hex.encode (EncryptionKey.ofPassword text octets).bytes) (Text.Hex.encode octets) := by
  simp only [keygen, stands.saltBytes?, EncryptionKey.derive_eq present nonempty, isText]
  exact ⟨rfl, rfl, rfl, rfl⟩

theorem keygen_of_halves (noText : password.text? = none) (present : password ≠ [])
    (nonempty : octets ≠ []) (stands : SaltOf environment salt octets) :
    (keygen environment { password := some password, salt := salt }).BreaksOff
      (.unencodable password) := by
  simp only [keygen, stands.saltBytes?, EncryptionKey.derive_eq present nonempty, noText]
  exact ⟨rfl, rfl, rfl, rfl⟩

theorem keygen_refused (unsalted : ¬∃ octets, SaltOf environment salt octets) :
    ∃ outcome : Outcome, outcome.Refused ∧ ∀ password, password ≠ [] →
      keygen environment { password := some password, salt := salt } = outcome := by
  rcases saltBytes?_of_unsalted unsalted none with unreadable | empty
  · refine ⟨.ofError environment "--salt must be hex",
      refused_ofError environment (by decide +kernel), ?_⟩
    intro password _
    -- The octets of the salt are those of the request without a password.
    have bytes : KeyRequest.saltBytes? { password := some password, salt := salt } environment =
      none := unreadable
    simp only [keygen, bytes]
  · refine ⟨.ofError environment (Failure.line (.invalidArgument .emptySalt)),
      refused_ofError environment (by decide +kernel), ?_⟩
    intro password present
    have bytes : KeyRequest.saltBytes? { password := some password, salt := salt } environment =
      some [] := empty
    simp only [keygen, bytes, EncryptionKey.derive_of_empty_salt present]

/-- A run for a password shows a key of 64 octets that passes the check of keys, and the salt, both
in lower case. Any later run for the password with that salt shows the same. -/
structure Reproducible (password : Points) (octets : List UInt8) (outcome : Outcome)
    (key salt : Text) : Prop where
  shows : outcome.Shows key salt
  lowerKey : ∀ c ∈ key, c ∈ "0123456789abcdef".toList
  lowerSalt : ∀ c ∈ salt, c ∈ "0123456789abcdef".toList
  isKey : ∃ bytes checked, Text.Hex.decode key = some bytes ∧ bytes.length = 64 ∧
    EncryptionKey.check (.octets .fixed bytes) = .ok checked ∧ checked.bytes = bytes
  isSalt : Text.Hex.decode salt = some octets
  again : ∀ later : Environment,
    (keygen later { password := some password, salt := some salt.points }).Shows key salt

/-- Where the salt option stands for a salt, every run for a password that is not empty shows a key
that can be made again, if the password is a text, and is broken off if it is not. Where the option
does not stand for one, the run is refused, and what it prints does not depend on the password. -/
theorem reproducible_keygen (draws : ∀ n, (environment.random n).length = n)
    (present : password ≠ []) (salt : Option Points) :
    (∀ octets, SaltOf environment salt octets →
      ((∃ text, password.text? = some text) → ∃ key shownSalt, Reproducible password octets
        (keygen environment { password := some password, salt := salt }) key shownSalt) ∧
      (password.text? = none →
        (keygen environment { password := some password, salt := salt }).BreaksOff
          (.unencodable password))) ∧
    ((¬∃ octets, SaltOf environment salt octets) →
      (keygen environment { password := some password, salt := salt }).Refused ∧
      ∀ other, other ≠ [] → keygen environment { password := some other, salt := salt } =
        keygen environment { password := some password, salt := salt }) := by
  constructor
  · intro octets stands
    have nonempty := stands.ne_nil draws
    refine ⟨?_, fun noText => keygen_of_halves noText present nonempty stands⟩
    rintro ⟨text, isText⟩
    let key := EncryptionKey.ofPassword text octets
    exact ⟨Text.Hex.encode key.bytes, Text.Hex.encode octets, {
      shows := keygen_of_salt isText present nonempty stands
      lowerKey := fun c mem => Text.Hex.lower_of_mem_encode mem
      lowerSalt := fun c mem => Text.Hex.lower_of_mem_encode mem
      isKey := ⟨key.bytes, key, Text.Hex.decode_encode _, key.length_bytes, key.check_bytes, rfl⟩
      isSalt := Text.Hex.decode_encode octets
      again := fun later => keygen_of_salt isText present nonempty (saltOf_encode later nonempty) }⟩
  · intro unsalted
    obtain ⟨outcome, refused, same⟩ := keygen_refused unsalted
    refine ⟨by rwa [same password present], fun other given => ?_⟩
    rw [same other given, same password present]

/-- A password that came in octets of Latin 1 ends a run without a key, although the salt is good. -/
theorem breaksOff_keygen_of_latin :
    let password : Points := [.char 'g', .char 'r', .half 0x4FC, .char 'n']
    let environment : Environment :=
      { dataDirectory := "/data", moment := .ofNumbers 0 0, random := fun n => List.replicate n 7 }
    let arguments : List Points := [Text.points "keygen", Text.points "--password", password]
    let outcome := run environment arguments {}
    password ≠ [] ∧ SaltOf environment none (List.replicate 16 7) ∧
      outcome.BreaksOff (.unencodable password) ∧ ¬∃ key salt, outcome.Shows key salt := by
  intro password environment arguments outcome
  refine ⟨nofun, .absent, ⟨rfl, rfl, rfl, rfl⟩, ?_⟩
  rintro ⟨key, salt, shows⟩
  cases shows.exitCode

/-- A salt with white space in it and digits of both cases, no salt, and one of white space only. The
same salts with a password that is no text. -/
theorem reproducible_keygen_of_spaced_salt :
    let environment : Environment :=
      { dataDirectory := "/data", moment := .ofNumbers 0 0, random := fun n => List.replicate n 7 }
    let password := Text.points "secret"
    let latin : Points := [.char 'g', .char 'r', .half 0x4FC, .char 'n']
    let request (password : Points) (salt : Option Points) : KeyRequest :=
      { password := some password, salt := salt }
    (∀ n, (environment.random n).length = n) ∧ password ≠ [] ∧ latin ≠ [] ∧
      (∃ key salt, Reproducible password [0, 255]
        (keygen environment (request password (some (Text.points " 00\tfF\n")))) key salt) ∧
      (∃ key salt, Reproducible password (List.replicate 16 7)
        (keygen environment (request password none)) key salt) ∧
      (keygen environment (request latin none)).BreaksOff (.unencodable latin) ∧
      (keygen environment (request latin (some (Text.points " ")))).Refused := by
  intro environment password latin request
  have draws (n : Nat) : (environment.random n).length = n := List.length_replicate
  have present : password ≠ [] := nofun
  have other : latin ≠ [] := nofun
  have isText : ∃ text, password.text? = some text := ⟨"secret", rfl⟩
  have spells : Text.Hex.Spells " 00\tfF\n" [0, 255] :=
    Text.Hex.decode_eq_some_iff.1 (by decide)
  have unsalted : ¬∃ octets, SaltOf environment (some (Text.points " ")) octets := by
    rintro ⟨octets, stands⟩
    have read : some [] = some octets := stands.saltBytes? none
    exact stands.ne_nil draws (Option.some.inj read).symm
  refine ⟨draws, present, other, ?_, ?_, ?_, ?_⟩
  · exact ((reproducible_keygen draws present _).1 _ (.given spells (by decide))).1 isText
  · exact ((reproducible_keygen draws present none).1 _ .absent).1 isText
  · exact ((reproducible_keygen draws other none).1 _ .absent).2 rfl
  · exact ((reproducible_keygen draws other _).2 unsalted).1

end CommandLine
end SyncedFile
