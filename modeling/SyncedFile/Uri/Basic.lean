import SyncedFile.Uri.Fault
import SyncedFile.Uri.IpLiteral

/-!
# URIs

A URI is taken apart into scheme, authority, path, query and fragment. Controls and spaces before it
are dropped, and so is every tab and line break in it. Brackets are allowed in an authority only
around an address.

* `split` — the five parts;
* `checkBrackets` — the rule for brackets;
* `hidesDelimiter` — the rule for characters that turn into delimiters.
-/

namespace SyncedFile

/-- The code points whose form under compatibility normalisation (NFKC, Unicode 14) holds one of the
delimiters `/ ? # @ :`, which are `⁇`, `℀`, `：` and the like. An authority with such a character
would fall apart differently once it is normalised. -/
def Text.delimiterForms : List Nat := [
    0x2047, 0x2048, 0x2049, 0x2100, 0x2101, 0x2105, 0x2106, 0x2A74, 0xFE13, 0xFE16,
    0xFE55, 0xFE56, 0xFE5F, 0xFE6B, 0xFF03, 0xFF0F, 0xFF1A, 0xFF1F, 0xFF20]

def Text.hidesDelimiter (t : Text) : Bool :=
  t.any (·.toNat ∈ delimiterForms)

/-- The five parts of a URI; a part that is missing is empty. -/
structure Uri where
  scheme : Text
  authority : Text
  path : Text
  query : Text
  fragment : Text
  deriving DecidableEq

namespace Uri

/-- The text without controls and spaces before it and without tabs and line breaks. -/
def clean (t : Text) : Text :=
  (t.dropWhile fun c => c.toNat ≤ 0x20).filter (· ∉ ['\t', '\r', '\n'])

def isSchemeChar (c : Char) : Bool :=
  c.isAlphanum || c ∈ ['+', '-', '.']

/-- The scheme before the first colon, in lower case, and the rest; without a scheme the text as
it is. -/
def splitScheme (t : Text) : Text × Text :=
  match Text.cut ':' t with
  | (scheme, some rest) =>
    if (scheme.head?.any Char.isAlpha) && scheme.all isSchemeChar then
      (scheme.map Char.toLower, rest)
    else ([], t)
  | _ => ([], t)

/-- The authority after two slashes, which ends before the first of `/ ? #`, and the rest. -/
def splitAuthority (t : Text) : Text × Text :=
  match t with
  | '/' :: '/' :: rest => Text.spanUntil ['/', '?', '#'] rest
  | _ => ([], t)

/-- What brackets enclose has to be an address of version 6 or of a future version. -/
def checkAddress (host : Text) : Except Fault Unit :=
  if host.head? = some 'v' then
    if isFutureLiteral host then .ok () else .error .futureLiteral
  else if isVersion4 host then .error .bracketedVersion4
  else if isVersion6 host then .ok ()
  else .error (.notAnAddress host)

def hostInfo (authority : Text) : Text :=
  (Text.cutLast '@' authority).2

/-- Brackets come in pairs, around the whole host. Where brackets stand only in the part before the
host, the text in the place of the host is held to the same rule. -/
def checkBrackets (authority : Text) : Except Fault Unit :=
  if '[' ∉ authority ∧ ']' ∉ authority then .ok ()
  else if '[' ∉ authority ∨ ']' ∉ authority then .error .misplacedBracket
  else
    match Text.cut '[' (hostInfo authority) with
    | (before, some bracketed) =>
      let (host, after) := Text.cut ']' bracketed
      if before ≠ [] then .error .misplacedBracket
      else if (after.bind List.head?).any (· ≠ ':') then .error .misplacedBracket
      else checkAddress host
    -- The brackets stand before the at sign.
    | (info, none) => checkAddress (Text.cut ':' info).1

def split (t : Text) : Except Fault Uri := do
  let (scheme, t) := splitScheme (clean t)
  let (authority, t) := splitAuthority t
  checkBrackets authority
  let (t, fragment) := Text.cut '#' t
  let (path, query) := Text.cut '?' t
  if Text.hidesDelimiter authority then throw (.hiddenDelimiter authority)
  return {
    scheme := scheme
    authority := authority
    path := path
    query := query.getD []
    fragment := fragment.getD [] }

end Uri
end SyncedFile
