import SyncedFile.Decimal.Notation
import SyncedFile.Text.Points

/-!
# JSON

A JSON document, and its text in printable ASCII: every other character is written as `\uXXXX`, one
beyond the basic plane as two such units, and half of a surrogate pair as one. On one line a comma
and a colon are each followed by a space; indented, every item has a line of its own.
-/

namespace SyncedFile

/-- A JSON document. The entries of an object keep their order. -/
inductive Json where
  | null
  | bool (b : Bool)
  | int (i : Int)
  | float (x : Binary64)
  | text (points : Points)
  | array (items : List Json)
  | object (entries : List (Text × Json))

namespace Json

/-! ## Strings -/

def unit (n : Nat) : Text :=
  "\\u" ++ Text.Hex.ofNat 4 n

def escapeChar (c : Char) : Text :=
  if c = '"' then "\\\""
  else if c = '\\' then "\\\\"
  else if c = '\n' then "\\n"
  else if c = '\r' then "\\r"
  else if c = '\t' then "\\t"
  else if c.toNat = 0x08 then "\\b"
  else if c.toNat = 0x0C then "\\f"
  else if 0x20 ≤ c.toNat ∧ c.toNat < 0x7F then [c]
  else if c.toNat < 0x10000 then unit c.toNat
  else
    let n := c.toNat - 0x10000
    unit (0xD800 + n / 0x400) ++ unit (0xDC00 + n % 0x400)

def escapePoint : Point → Text
  | .char c => escapeChar c
  | .half n => unit (Point.halves + n)

def string (points : Points) : Text :=
  '"' :: points.flatMap escapePoint ++ ['"']

/-! ## Documents -/

def scalar : Json → Text
  | null => "null"
  | bool true => "true"
  | bool false => "false"
  | int i => Text.ofInt i
  | float x => NumberStyle.logged.render x
  | text points => string points
  | array _ => "[]"
  | object _ => "\x7b\x7d"

mutual

def render : Json → Text
  | array items => '[' :: Text.joinWith ", " (renderAll items) ++ "]"
  | object entries => '\x7b' :: Text.joinWith ", " (renderEntries entries) ++ "\x7d"
  | json => scalar json

def renderAll : List Json → List Text
  | [] => []
  | json :: rest => render json :: renderAll rest

def renderEntries : List (Text × Json) → List Text
  | [] => []
  | (key, json) :: rest => (string key ++ ": " ++ render json) :: renderEntries rest

end

def newline (depth : Nat) : Text :=
  '\n' :: List.replicate (2 * depth) ' '

mutual

def renderIndented (depth : Nat) : Json → Text
  | array [] => "[]"
  | array (item :: more) =>
    '[' :: newline (depth + 1)
      ++ Text.joinWith (',' :: newline (depth + 1))
        (renderIndented (depth + 1) item :: indentAll (depth + 1) more)
      ++ newline depth ++ "]"
  | object [] => "\x7b\x7d"
  | object ((key, json) :: more) =>
    '\x7b' :: newline (depth + 1)
      ++ Text.joinWith (',' :: newline (depth + 1))
        ((string key ++ ": " ++ renderIndented (depth + 1) json)
          :: indentEntries (depth + 1) more)
      ++ newline depth ++ "\x7d"
  | json => scalar json

def indentAll (depth : Nat) : List Json → List Text
  | [] => []
  | json :: rest => renderIndented depth json :: indentAll depth rest

def indentEntries (depth : Nat) : List (Text × Json) → List Text
  | [] => []
  | (key, json) :: rest =>
    (string key ++ ": " ++ renderIndented depth json) :: indentEntries depth rest

end

end Json
end SyncedFile
