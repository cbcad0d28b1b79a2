import SyncedFile.Text.Emoji
import SyncedFile.Text.Hex
import SyncedFile.Text.LetterCase

/-!
# Short codes

The name of an emoji between two colons stands for the emoji; `-text` or `-emoji` after the name
asks for one of its two presentations. A name that belongs to no emoji is left as it is.

* `emoji?` — the emoji of a name;
* `shortCode` — a short code at the beginning of a text;
* `expandShortCodes` — a text with emoji in place of short codes.
-/

namespace SyncedFile.Text

def hexNumber (t : Text) : Nat :=
  t.foldl (fun n c => 16 * n + (Hex.value? c).getD 0) 0

def emoji? (name : Text) : Option Text :=
  (emoji.find? (·.2.contains (lower name))).map fun entry =>
    (splitOn '+' entry.1).map fun point => Char.ofNat (hexNumber point)

/-- A short code without its first colon. -/
structure ShortCode where
  name : Text
  /-- The presentation that is asked for, as written. -/
  presentation : Text := []
  deriving DecidableEq

/-- The two presentations, as written and as the character that selects them. -/
def presentations : List (Text × Char) :=
  [("-emoji", Char.ofNat 0xFE0F), ("-text", Char.ofNat 0xFE0E)]

/-- The short code that a text starts with after a colon, and what follows it. A name has no white
space in it. -/
def shortCode : Text → Option (ShortCode × Text)
  | [] => none
  | c :: rest =>
    match presentations.find? fun p => (p.1 ++ [':']).isPrefixOf (c :: rest) with
    | some p => some ({ name := [], presentation := p.1 }, rest.drop p.1.length)
    | none =>
      if c = ':' then some ({ name := [] }, rest)
      else if isBlank c then none
      else (shortCode rest).map fun (code, rest) => ({ code with name := c :: code.name }, rest)

theorem length_of_shortCode {t rest : Text} {code : ShortCode}
    (h : shortCode t = some (code, rest)) : rest.length < t.length := by
  induction t generalizing code rest with
  | nil => simp [shortCode] at h
  | cons c tail ih =>
    simp only [shortCode] at h
    split at h
    · obtain ⟨-, rfl⟩ := by simpa using h
      simp only [List.length_drop, List.length_cons]
      omega
    · split at h
      · obtain ⟨-, rfl⟩ := by simpa using h
        exact Nat.lt_succ_self _
      · split at h
        · exact absurd h (by simp)
        · simp only [Option.map_eq_some_iff, Prod.exists, Prod.mk.injEq] at h
          obtain ⟨code', rest', h', -, rfl⟩ := h
          exact Nat.lt_succ_of_lt (ih h')

def ShortCode.written (code : ShortCode) : Text :=
  ':' :: code.name ++ code.presentation ++ [':']

def ShortCode.meaning (code : ShortCode) : Text :=
  match emoji? code.name with
  | none => code.written
  | some found =>
    match presentations.find? (·.1 = code.presentation) with
    | some p => found ++ [p.2]
    | none => found

def expandShortCodes : Text → Text
  | [] => []
  | c :: rest =>
    if c = ':' then
      match h : shortCode rest with
      | some (code, after) =>
        have := length_of_shortCode h
        code.meaning ++ expandShortCodes after
      | none => c :: expandShortCodes rest
    else c :: expandShortCodes rest
termination_by t => t.length
decreasing_by
  all_goals
    simp only [List.length_cons]
    omega

end SyncedFile.Text
