import SyncedFile.Text.Basic

/-!
# Addresses of the Internet Protocol as text

Which texts are addresses of version 4, of version 6, or of a future version.
-/

namespace SyncedFile.Uri

def isHexDigit (c : Char) : Bool :=
  c.isDigit || ('a' ≤ c && c ≤ 'f') || ('A' ≤ c && c ≤ 'F')

/-- A number from 0 to 255 in decimal, without a leading zero. -/
def isOctetNumeral (t : Text) : Bool :=
  match Text.digits? t with
  | some n => t.length ≤ 3 && n ≤ 255 && (t.head? != some '0' || t.length == 1)
  | none => false

def isVersion4 (t : Text) : Bool :=
  let octets := Text.splitOn '.' t
  octets.length == 4 && octets.all isOctetNumeral

def isHextet (t : Text) : Bool :=
  !t.isEmpty && t.length ≤ 4 && t.all isHexDigit

/-- Pieces between colons make up an address of eight hextets, where one empty piece may stand for
any number of zero hextets. That piece at either end goes with an empty piece beside it. -/
def areHextets (pieces : List Text) : Bool :=
  -- An empty piece between two others is a double colon.
  let inner := pieces.tail.dropLast
  match inner.findIdx? (·.isEmpty) with
  | none => pieces.length == 8 && pieces.all isHextet
  | some i =>
    let before := pieces.take (i + 1)
    let after := pieces.drop (i + 2)
    let high := if before.head? = some [] then before.tail else before
    let low := if after.getLast? = some [] then after.dropLast else after
    pieces.length ≤ 9 && inner.countP (·.isEmpty) == 1
      && (before.head? != some [] || high.isEmpty) && (after.getLast? != some [] || low.isEmpty)
      && high.length + low.length < 8 && high.all isHextet && low.all isHextet

/-- An address of version 6 without a zone. The last two hextets may be written as an address of
version 4. -/
def isUnzonedVersion6 (t : Text) : Bool :=
  let pieces := Text.splitOn ':' t
  let last := pieces.getLast?.getD []
  3 ≤ pieces.length
    && if '.' ∈ last then isVersion4 last && areHextets (pieces.dropLast ++ [['0'], ['0']])
       else areHextets pieces

def isVersion6 (t : Text) : Bool :=
  match Text.cut '%' t with
  | (address, none) => isUnzonedVersion6 address
  | (address, some zone) => !zone.isEmpty && '%' ∉ zone && isUnzonedVersion6 address

/-- A literal of a future version: `v`, a version in base sixteen, a point, and more. -/
def isFutureLiteral (t : Text) : Bool :=
  match t with
  | 'v' :: rest =>
    let version := rest.takeWhile isHexDigit
    match rest.dropWhile isHexDigit with
    | '.' :: _ :: _ => !version.isEmpty
    | _ => false
  | _ => false

end SyncedFile.Uri
