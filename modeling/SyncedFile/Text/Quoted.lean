import SyncedFile.Text.Hex
import SyncedFile.Text.Printable

/-!
# Quoted literals

A text, or a row of octets, as a literal on one line. The literal stands between single quotes,
or between double quotes when it holds a single quote and no double one. The enclosing quote and
the backslash are escaped, and so is every character that is not shown as itself.
-/

namespace SyncedFile.Text

def quoteFor (t : Text) : Char :=
  if '\'' ∈ t ∧ '"' ∉ t then '"' else '\''

/-- A character by its code point, in as few hexadecimal digits as the three forms allow. -/
def numberedChar (c : Char) : Text :=
  if c.toNat < 0x100 then "\\x" ++ Hex.ofNat 2 c.toNat
  else if c.toNat < 0x10000 then "\\u" ++ Hex.ofNat 4 c.toNat
  else "\\U" ++ Hex.ofNat 8 c.toNat

def quotedChar (quote c : Char) : Text :=
  if c = quote ∨ c = '\\' then ['\\', c]
  else if c = '\n' then "\\n"
  else if c = '\r' then "\\r"
  else if c = '\t' then "\\t"
  else if isPrintable c then [c]
  else numberedChar c

def quoted (t : Text) : Text :=
  let quote := quoteFor t
  quote :: t.flatMap (quotedChar quote) ++ [quote]

def quotedOctet (quote : Char) (b : UInt8) : Text :=
  if b.toNat < 0x7F then quotedChar quote (Char.ofNat b.toNat)
  else "\\x" ++ Hex.ofNat 2 b.toNat

def quoteForOctets (bytes : List UInt8) : Char :=
  quoteFor (bytes.map fun b => Char.ofNat b.toNat)

/-- The literal of a row of octets, in which `escaped` is the quote that is escaped. -/
def quotedOctets (escaped : Char) (bytes : List UInt8) : Text :=
  let quote := quoteForOctets bytes
  quote :: bytes.flatMap (quotedOctet escaped) ++ [quote]

end SyncedFile.Text
