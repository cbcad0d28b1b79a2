import SyncedFile.Text.Points
import SyncedFile.Value.Literal

/-!
# Message templates

A message may be a template with conversions such as `%s` or `%05d`, filled from a value: a tuple
is a row of arguments, any other value is the only one, and a collection may be looked up by name. A
conversion starts with `%`, may name its argument in brackets, and has flags, a width, a precision
and a letter. Two `%` in a row are one in the message.

* `lookUp` — the argument of a name;
* `Conversion` — a conversion as read;
* `fill` — the message, or what is wrong with template or arguments.
-/

namespace SyncedFile.Log

/-- What is wrong with a template or its arguments. -/
inductive TemplateFault where
  | incomplete
  | incompleteKey
  | needsMapping
  | missingKey (key : Text)
  /-- The values of a collection go by position. -/
  | indexedBy (kind : Text)
  | viewKey
  | tooFew
  | tooMany
  | starNotInt
  | widthTooBig
  | precisionTooBig
  | precisionTooLarge
  | starBeyondWidth
  | starBeyondPrecision
  | beyondMemory
  | unsupported (c : Char) (index : Nat)
  | notReal (conversion : Char) (typeName : Text)
  | notInteger (conversion : Char) (typeName : Text)
  | notFloat (typeName : Text)
  | notCharacter
  | characterRange
  | nanToInteger
  | infinityToInteger
  | beyondFloat
  deriving DecidableEq

def TemplateFault.message : TemplateFault → Text
  | incomplete => "incomplete format"
  | incompleteKey => "incomplete format key"
  | needsMapping => "format requires a mapping"
  | missingKey key => Text.quoted key
  | indexedBy kind => kind ++ " indices must be integers or slices, not str"
  | viewKey => "memoryview: invalid slice key"
  | tooFew => "not enough arguments for format string"
  | tooMany => "not all arguments converted during string formatting"
  | starNotInt => "* wants int"
  | widthTooBig => "width too big"
  | precisionTooBig => "precision too big"
  | precisionTooLarge => "precision too large"
  | starBeyondWidth => "Python int too large to convert to C ssize_t"
  | starBeyondPrecision => "Python int too large to convert to C int"
  | beyondMemory => []
  | unsupported c index =>
    "unsupported format character '" ++ [if 31 ≤ c.toNat ∧ c.toNat < 127 then c else '?']
      ++ "' (0x" ++ Text.Hex.ofNat 0 c.toNat ++ ") at index " ++ Text.ofNat index
  | notReal conversion typeName =>
    '%' :: conversion :: " format: a real number is required, not " ++ typeName
  | notInteger conversion typeName =>
    '%' :: conversion :: " format: an integer is required, not " ++ typeName
  | notFloat typeName => "must be real number, not " ++ typeName
  | notCharacter => "%c requires int or char"
  | characterRange => "%c arg not in range(0x110000)"
  | nanToInteger => "cannot convert float NaN to integer"
  | infinityToInteger => "cannot convert float infinity to integer"
  | beyondFloat => "int too large to convert to float"

/-! ## Arguments -/

/-- The value that a template is filled from where a message comes with arguments: their row, or a
dictionary that stands alone and has entries. -/
def argumentsOf : List Value → Value
  | [.dict (entry :: more)] => .dict (entry :: more)
  | values => .tuple values

def lookUp (collection : Value) (key : Text) : Except TemplateFault Value :=
  match collection with
  | .dict entries =>
    match entries.find? fun entry => entry.1.text? == some key with
    | some entry => .ok entry.2
    | none => .error (.missingKey key)
  | .list _ => .error (.indexedBy "list")
  | .octets .fixed _ => .error (.indexedBy "byte")
  | .octets .editable _ => .error (.indexedBy "bytearray")
  | .octets .view _ => .error .viewKey
  | _ => .error .needsMapping

def isCollection : Value → Bool
  | .dict _ | .list _ | .octets _ _ => true
  | _ => false

/-- The arguments that are left while a template is filled. -/
structure Supply where
  left : List Value
  /-- The collection that names are looked up in. -/
  collection : Option Value := none

def Supply.ofValue : Value → Supply
  | .tuple values => { left := values }
  | value => { left := [value], collection := if isCollection value then some value else none }

def Supply.next (supply : Supply) : Except TemplateFault (Value × Supply) :=
  match supply.left with
  | [] => .error .tooFew
  | v :: rest => .ok (v, { supply with left := rest })

def Supply.named (supply : Supply) (key : Text) : Except TemplateFault Value :=
  match supply.collection with
  | none => .error .needsMapping
  | some collection => lookUp collection key

/-! ## Conversions -/

/-- A conversion without its letter. -/
structure Conversion where
  leftward : Bool := false
  plus : Bool := false
  blank : Bool := false
  alternate : Bool := false
  zeros : Bool := false
  width : Nat := 0
  precision : Option Nat := none

/-- The name of a conversion's argument, up to the bracket that closes it, and what follows. -/
def readKey (depth : Nat) : Text → Option (Text × Text)
  | [] => none
  | c :: rest =>
    if c = ')' ∧ depth = 0 then some ([], rest)
    else
      let depth := if c = '(' then depth + 1 else if c = ')' then depth - 1 else depth
      (readKey depth rest).map fun found => (c :: found.1, found.2)

def readFlags (conversion : Conversion) : Text → Conversion × Text
  | '-' :: rest => readFlags { conversion with leftward := true } rest
  | '+' :: rest => readFlags { conversion with plus := true } rest
  | ' ' :: rest => readFlags { conversion with blank := true } rest
  | '#' :: rest => readFlags { conversion with alternate := true } rest
  | '0' :: rest => readFlags { conversion with zeros := true } rest
  | rest => (conversion, rest)

def readStar (supply : Supply) : Except TemplateFault (Int × Supply) := do
  let (v, supply) ← supply.next
  match v with
  | .int i => return (i, supply)
  | .bool b => return (if b then 1 else 0, supply)
  | _ => throw .starNotInt

/-- Widths are kept in 64 bits, with a sign. -/
def widthLimit : Nat := 1 <<< 63

/-- Precisions are kept in 32 bits, with a sign. -/
def precisionLimit : Nat := 1 <<< 31

/-- The width of a conversion; a negative one sets the text to the left. -/
def readWidth (conversion : Conversion) (supply : Supply) (t : Text) :
    Except TemplateFault (Conversion × Supply × Text) :=
  match t with
  | '*' :: rest => do
    let (i, supply) ← readStar supply
    if widthLimit ≤ i ∨ i < -widthLimit then throw .starBeyondWidth
    let leftward := conversion.leftward || i < 0
    return ({ conversion with width := i.natAbs, leftward := leftward }, supply, rest)
  | t =>
    let width := Text.digitsFrom 0 (t.takeWhile Char.isDigit)
    if widthLimit ≤ width then .error .widthTooBig
    else .ok ({ conversion with width := width }, supply, t.dropWhile Char.isDigit)

def readPrecision (conversion : Conversion) (supply : Supply) (t : Text) :
    Except TemplateFault (Conversion × Supply × Text) :=
  match t with
  | '.' :: '*' :: rest => do
    let (i, supply) ← readStar supply
    if precisionLimit ≤ i ∨ i < -precisionLimit then throw .starBeyondPrecision
    return ({ conversion with precision := some i.toNat }, supply, rest)
  | '.' :: rest =>
    let precision := Text.digitsFrom 0 (rest.takeWhile Char.isDigit)
    if precisionLimit ≤ precision then .error .precisionTooBig
    else
      .ok ({ conversion with precision := some precision }, supply, rest.dropWhile Char.isDigit)
  | t => .ok (conversion, supply, t)

/-! ## Converting one argument -/

/-- A converted number: its sign, the mark of its base, and its digits. -/
structure Numeral where
  negative : Bool
  mark : Text := []
  digits : Text

def upperAscii (t : Text) : Text :=
  t.map Char.toUpper

def place {α : Type} (blank : α) (conversion : Conversion) (row : List α) : List α :=
  if conversion.leftward then Text.padRight blank conversion.width row
  else Text.padLeft blank conversion.width row

/-- Puts a converted number into its width, with zeros between sign and digits where asked. -/
def placeNumeral (conversion : Conversion) (n : Numeral) : Text :=
  let sign : Text :=
    if n.negative then ['-'] else if conversion.plus then ['+']
    else if conversion.blank then [' '] else []
  let opening := sign ++ n.mark
  if conversion.zeros && !conversion.leftward then
    opening ++ Text.padLeft '0' (conversion.width - opening.length) n.digits
  else place ' ' conversion (opening ++ n.digits)

def toInteger (letter : Char) : Value → Except TemplateFault Int
  | .int i => .ok i
  | .bool b => .ok (if b then 1 else 0)
  | .float (.nan _) =>
    if letter ∈ ['d', 'i', 'u'] then .error .nanToInteger
    else .error (.notInteger letter (Value.float (.nan 0)).typeName)
  | .float (.infinite negative) =>
    if letter ∈ ['d', 'i', 'u'] then .error .infinityToInteger
    else .error (.notInteger letter (Value.float (.infinite negative)).typeName)
  | .float x =>
    if letter ∈ ['d', 'i', 'u'] then .ok (x.truncate?.getD 0)
    else .error (.notInteger letter (Value.float x).typeName)
  | v =>
    if letter ∈ ['d', 'i', 'u'] then .error (.notReal letter v.typeName)
    else .error (.notInteger letter v.typeName)

def baseOf (letter : Char) : Nat × Text :=
  match letter with
  | 'o' => (8, "0o")
  | 'x' => (16, "0x")
  | 'X' => (16, "0X")
  | _ => (10, [])

/-- The longest row of digits that an integer may be given. -/
def integerPrecisionLimit : Nat := precisionLimit - 4

def integerNumeral (conversion : Conversion) (letter : Char) (i : Int) : Numeral :=
  let (base, mark) := baseOf letter
  let digits := Text.padLeft '0' (conversion.precision.getD 0) (Nat.toDigits base i.natAbs)
  { negative := i < 0
    mark := if conversion.alternate then mark else []
    digits := if letter = 'X' then upperAscii digits else digits }

def fixedDigits (alternate : Bool) (places : Nat) (n d : Nat) : Text :=
  let digits := Text.padLeft '0' (places + 1) (Decimal.roundTo n d (-places)).digitText
  let whole := digits.take (digits.length - places)
  if places = 0 then whole ++ (if alternate then ['.'] else [])
  else whole ++ '.' :: digits.drop (digits.length - places)

/-- The first digits of a fraction, rounded, and the exponent of the first of them. -/
def leadingDigits (count : Nat) (n d : Nat) : Text × Int :=
  if n = 0 then (List.replicate count '0', 0)
  else
    let first := Decimal.magnitude n d
    let rounded := Decimal.roundTo n d (first - (count - 1 : Nat))
    let digits := rounded.digitText
    -- Rounding up may carry into one more digit, which moves the exponent.
    if digits.length = count then (digits, first) else (digits.take count, first + 1)

def exponentForm (alternate : Bool) (digits : Text) (e : Int) : Text :=
  let body := if digits.length ≤ 1 then digits ++ (if alternate then ['.'] else [])
    else digits.take 1 ++ '.' :: digits.drop 1
  body ++ Decimal.exponentText 'e' e

/-- More digits than any floating-point number has. -/
def maxDigits : Nat := 1100

def floatDigits (conversion : Conversion) (letter : Char) (n d : Nat) : Text :=
  let precision := conversion.precision.getD 6
  match letter with
  | 'f' => fixedDigits conversion.alternate precision n d
  | 'e' =>
    let (digits, e) := leadingDigits (precision + 1) n d
    exponentForm conversion.alternate digits e
  | _ =>
    -- No number has more digits than that; those beyond would be zeros.
    let count := if conversion.alternate then max precision 1 else min (max precision 1) maxDigits
    let (digits, e) := leadingDigits count n d
    let kept :=
      if conversion.alternate then digits else
        let bare := (digits.reverse.dropWhile (· = '0')).reverse
        if bare = [] then ['0'] else bare
    if e < -4 ∨ (count : Int) ≤ e then exponentForm conversion.alternate kept e
    else if e < 0 then
      "0." ++ List.replicate (-e - 1).toNat '0' ++ kept
    else
      let whole := Text.padRight '0' (e.toNat + 1) (kept.take (e.toNat + 1))
      let part := kept.drop (e.toNat + 1)
      if part = [] then whole ++ (if conversion.alternate then ['.'] else [])
      else whole ++ '.' :: part

def floatNumeral (conversion : Conversion) (letter : Char) (x : Binary64) : Numeral :=
  let raise (t : Text) : Text := if letter.isUpper then upperAscii t else t
  match x with
  | .nan _ => { negative := false, digits := raise "nan" }
  | .infinite negative => { negative := negative, digits := raise "inf" }
  | .finite negative s e =>
    { negative := negative
      digits := raise (floatDigits conversion letter.toLower (Binary64.numerator s e)
        (Binary64.denominator e)) }

def floatOf : Value → Except TemplateFault Binary64
  | .float x => .ok x
  | .int i =>
    match Binary64.ofInt? i with
    | some x => .ok x
    | none => .error .beyondFloat
  | .bool b => .ok (.finite false (if b then 1 else 0) 0)
  | v => .error (.notFloat v.typeName)

/-- The code point that an argument stands for. A number may be that of half a pair. -/
def pointOf : Value → Except TemplateFault Point
  | .text [c] => .ok (.char c)
  | .int i => if 0 ≤ i ∧ i < 0x110000 then .ok (Point.ofNat i.toNat) else .error .characterRange
  | .bool b => .ok (.char (Char.ofNat (if b then 1 else 0)))
  | _ => .error .notCharacter

def asciiLiteral (v : Value) : Text :=
  v.literal.flatMap fun c => if c.toNat < 0x80 then [c] else Text.numberedChar c

def placeText (conversion : Conversion) (t : Text) : Text :=
  place ' ' conversion (match conversion.precision with
    | some n => t.take n
    | none => t)

/-- An argument in the form of a conversion that gives text, whose letter stands at `index`. -/
def convertText (conversion : Conversion) (letter : Char) (index : Nat) (v : Value) :
    Except TemplateFault Text :=
  match letter with
  | 's' => .ok (placeText conversion v.plain)
  | 'r' => .ok (placeText conversion v.literal)
  | 'a' => .ok (placeText conversion (asciiLiteral v))
  | 'd' | 'i' | 'u' | 'o' | 'x' | 'X' => do
    let i ← toInteger letter v
    if conversion.precision.any (integerPrecisionLimit < ·) then throw .precisionTooLarge
    return placeNumeral conversion (integerNumeral conversion letter i)
  | 'e' | 'E' | 'f' | 'F' | 'g' | 'G' => do
    let x ← floatOf v
    return placeNumeral conversion (floatNumeral conversion letter x)
  | letter => .error (.unsupported letter index)

def convert (conversion : Conversion) (letter : Char) (index : Nat) (v : Value) :
    Except TemplateFault Points :=
  if letter = 'c' then (pointOf v).map fun point => place (.char ' ') conversion [point]
  else (convertText conversion letter index v).map Text.points

/-- A text that is wider than this has no place in memory. -/
def memoryLimit : Nat := 1 <<< 32

/-- An argument in the form of a conversion, if the width leaves it a place in memory. -/
def convertWithin (conversion : Conversion) (letter : Char) (index : Nat) (v : Value) :
    Except TemplateFault Points :=
  if conversion.width < memoryLimit then convert conversion letter index v
  else
    match convert { conversion with width := 0 } letter index v with
    | .ok _ => .error .beyondMemory
    | .error fault => .error fault

/-! ## Filling a template -/

/-- One conversion at the beginning of a text, after its `%`: what it gives, the supply, and the
rest. `length` is the length of the whole template. -/
def fillOne (length : Nat) (supply : Supply) (t : Text) :
    Except TemplateFault (Points × Supply × Text) := do
  let (given, t) ← (match t with
    | '(' :: rest =>
      if supply.collection.isNone then .error .needsMapping
      else
        match readKey 0 rest with
        | none => .error .incompleteKey
        | some (key, rest) => do
          let v ← supply.named key
          return (some v, rest)
    | t => .ok (none, t) : Except TemplateFault (Option Value × Text))
  let supply := match given with
    | some v => { supply with left := [v] }
    | none => supply
  let (conversion, t) := readFlags {} t
  let (conversion, supply, t) ← readWidth conversion supply t
  let (conversion, supply, t) ← readPrecision conversion supply t
  let t := match t with
    | 'h' :: rest | 'l' :: rest | 'L' :: rest => rest
    | t => t
  match t with
  | [] => throw .incomplete
  | letter :: rest =>
    let (v, supply) ← supply.next
    let points ← convertWithin conversion letter (length - rest.length - 1) v
    return (points, supply, rest)

def fillFrom (length : Nat) : Nat → Supply → Text → Except TemplateFault Points
  | 0, _, _ => .ok []
  | _ + 1, supply, [] =>
    if supply.left.isEmpty || supply.collection.isSome then .ok [] else .error .tooMany
  | fuel + 1, supply, '%' :: '%' :: rest => do
    return .char '%' :: (← fillFrom length fuel supply rest)
  | fuel + 1, supply, c :: rest =>
    if c = '%' then do
      let (points, supply, rest) ← fillOne length supply rest
      return points ++ (← fillFrom length fuel supply rest)
    else do
      return .char c :: (← fillFrom length fuel supply rest)

def fill (template : Text) (arguments : Value) : Except TemplateFault Points :=
  fillFrom template.length (template.length + 1) (.ofValue arguments) template

end SyncedFile.Log
