import SyncedFile.Json.Basic

/-!
# Reading JSON

A reader of JSON that takes the words `NaN` and `Infinity` for numbers too. Blanks may stand between
all parts, a string may hold any character that is no control character, and numbers keep the form
in which they are written. Half of a surrogate pair stands alone where its other half does not
follow.

* `Reading` — a document as it is read, and `Json.reading`, what a document is to be read as;
* `Json.Reader.value?`, `Json.read?` — one document at the start of a text, and a text as a whole;
* `Reading.field?` — the field of an object under a name; of several the last one counts.
-/

namespace SyncedFile

/-- A JSON document as it is read. -/
inductive Reading where
  | null
  | bool (b : Bool)
  | number (numeral : Text)
  | text (points : Points)
  | array (items : List Reading)
  | object (entries : List (Points × Reading))

namespace Reading

/-- The value under a name. Where a name stands twice, what comes later replaces what came before. -/
def field? (name : Text) : Reading → Option Reading
  | object entries => (entries.reverse.find? (·.1 = name.points)).map (·.2)
  | _ => none

end Reading

namespace Json

mutual

/-- What a document is to be read as. -/
def reading : Json → Reading
  | null => .null
  | bool b => .bool b
  | int i => .number (Text.ofInt i)
  | float x => .number (NumberStyle.logged.render x)
  | text points => .text points.joined
  | array items => .array (readingAll items)
  | object entries => .object (readingEntries entries)

def readingAll : List Json → List Reading
  | [] => []
  | json :: rest => reading json :: readingAll rest

def readingEntries : List (Text × Json) → List (Points × Reading)
  | [] => []
  | (key, json) :: rest => (key.points, reading json) :: readingEntries rest

end

namespace Reader

/-! ## Strings -/

/-- The character that is written as a backslash and this one. -/
def escaped? (c : Char) : Option Char :=
  match c with
  | '"' => some '"'
  | '\\' => some '\\'
  | '/' => some '/'
  | 'b' => some (Char.ofNat 0x08)
  | 'f' => some (Char.ofNat 0x0C)
  | 'n' => some '\n'
  | 'r' => some '\r'
  | 't' => some '\t'
  | _ => none

/-- The number that the first four characters write in base sixteen, and what follows them. -/
def unit? : Text → Option (Nat × Text)
  | a :: b :: c :: d :: rest => do
    let a ← Text.Hex.value? a
    let b ← Text.Hex.value? b
    let c ← Text.Hex.value? c
    let d ← Text.Hex.value? d
    return (((a * 16 + b) * 16 + c) * 16 + d, rest)
  | _ => none

def isHighHalf (unit : Nat) : Bool :=
  0xD800 ≤ unit && unit < 0xDC00

def isLowHalf (unit : Nat) : Bool :=
  0xDC00 ≤ unit && unit < 0xE000

/-- The character of a pair whose second half follows the first one. -/
def secondHalf? (high : Nat) : Text → Option (Char × Text)
  | '\\' :: 'u' :: rest => do
    let (low, rest) ← unit? rest
    if isHighHalf high && isLowHalf low then
      return (Char.ofNat (0x10000 + (high - 0xD800) * 0x400 + (low - 0xDC00)), rest)
    else none
  | _ => none

/-- The first character of what stands between quotes, or a half that stands alone, and what follows
it. -/
def point? : Text → Option (Point × Text)
  | [] => none
  | ['\\'] => none
  | '\\' :: 'u' :: rest => do
    let (unit, rest) ← unit? rest
    match secondHalf? unit rest with
    | some (c, rest) => return (.char c, rest)
    | none => return (.ofNat unit, rest)
  | '\\' :: c :: rest => (escaped? c).map (.char ·, rest)
  | c :: rest => if c.toNat < 0x20 then none else some (.char c, rest)

/-- What stands before the next quote, and what follows the quote. At most `fuel` characters are
read, the quote among them. -/
def points? : Nat → Text → Option (Points × Text)
  | 0, _ => none
  | _ + 1, '"' :: rest => some ([], rest)
  | fuel + 1, t => do
    let (point, rest) ← point? t
    let (more, rest) ← points? fuel rest
    return (point :: more, rest)

/-! ## Numbers and words -/

/-- A character that a number may have, or a word that stands without quotes. -/
def isWordChar (c : Char) : Bool :=
  c.isAlphanum || c ∈ ['+', '-', '.']

/-- The exponent of a number, or nothing. -/
def isExponent : Text → Bool
  | [] => true
  | mark :: t =>
    (mark = 'e' || mark = 'E') &&
      match t with
      | '+' :: digits | '-' :: digits | digits => digits ≠ [] && digits.all Char.isDigit

/-- What may follow the whole part of a number: a point with digits after it, and an exponent. -/
def isFraction : Text → Bool
  | '.' :: t => t.takeWhile Char.isDigit ≠ [] && isExponent (t.dropWhile Char.isDigit)
  | t => isExponent t

/-- A number without a sign. No digit stands after a zero at the start. -/
def isMagnitude (t : Text) : Bool :=
  let whole := t.takeWhile Char.isDigit
  whole ≠ [] && (whole = ['0'] || whole.head? ≠ some '0') && isFraction (t.dropWhile Char.isDigit)

def isNumeral : Text → Bool
  | '-' :: t => isMagnitude t
  | t => isMagnitude t

/-- The words that stand for numbers that have no digits. -/
def numberWords : List Text :=
  ["NaN", "Infinity", "-Infinity"]

def scalar? (word : Text) : Option Reading :=
  if word = "null".toList then some .null
  else if word = "true".toList then some (.bool true)
  else if word = "false".toList then some (.bool false)
  else if isNumeral word ∨ word ∈ numberWords then some (.number word)
  else none

/-! ## Documents -/

def isBlank (c : Char) : Bool :=
  c ∈ [' ', '\t', '\n', '\r']

def skipBlanks (t : Text) : Text :=
  t.dropWhile isBlank

def afterColon? (t : Text) : Option Text :=
  match skipBlanks t with
  | ':' :: rest => some rest
  | _ => none

mutual

/-- The document at the start of a text, and what follows it. Documents are read `fuel` levels deep
at most, where each item after the first counts as a level below the one before it. -/
def value? : Nat → Text → Option (Reading × Text)
  | 0, _ => none
  | fuel + 1, t =>
    match skipBlanks t with
    | '"' :: rest => (points? rest.length rest).map fun read => (.text read.1, read.2)
    | '[' :: rest =>
      match skipBlanks rest with
      | ']' :: rest => some (.array [], rest)
      | rest => (items? fuel rest).map fun read => (.array read.1, read.2)
    | '\x7b' :: rest =>
      match skipBlanks rest with
      | '\x7d' :: rest => some (.object [], rest)
      | rest => (entries? fuel rest).map fun read => (.object read.1, read.2)
    | rest => (scalar? (rest.takeWhile isWordChar)).map (·, rest.dropWhile isWordChar)

def items? : Nat → Text → Option (List Reading × Text)
  | 0, _ => none
  | fuel + 1, t => do
    let (item, rest) ← value? fuel t
    match skipBlanks rest with
    | ',' :: rest =>
      let (more, rest) ← items? fuel rest
      return (item :: more, rest)
    | ']' :: rest => return ([item], rest)
    | _ => none

def entries? : Nat → Text → Option (List (Points × Reading) × Text)
  | 0, _ => none
  | fuel + 1, t =>
    match skipBlanks t with
    | '"' :: rest => do
      let (name, rest) ← points? rest.length rest
      let rest ← afterColon? rest
      let (value, rest) ← value? fuel rest
      match skipBlanks rest with
      | ',' :: rest =>
        let (more, rest) ← entries? fuel rest
        return ((name, value) :: more, rest)
      | '\x7d' :: rest => return ([(name, value)], rest)
      | _ => none
    | _ => none

end

end Reader

/-- A text read as one document, with nothing but blanks around it. -/
def read? (t : Text) : Option Reading :=
  match Reader.value? t.length t with
  | some (reading, rest) => if Reader.skipBlanks rest = [] then some reading else none
  | none => none

end Json
end SyncedFile
