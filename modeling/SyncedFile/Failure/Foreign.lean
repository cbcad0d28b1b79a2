import SyncedFile.Failure.Misuse
import SyncedFile.Value.Literal

/-!
# Foreign faults

A fault of something outside of the library, of which only the name of its kind and the arguments
it was raised with are known. Some kinds have a form of their own on one line.

* `ForeignFault` — kind and arguments, and `closestKind`, the name that it goes by;
* `refusal?` — a refusal by the system: number, reason and paths;
* `codecLine?` — a text or a row of octets that has no form in a code;
* `sourcePlace` — a place in a source text;
* `line`, `trace` — a fault on one line, and as it ends a trace.
-/

namespace SyncedFile

/-- A fault from outside the library: its kind and the arguments it was raised with. -/
structure ForeignFault where
  kind : Text
  arguments : List Value

namespace ForeignFault

/-! ## Refusals by the system -/

/-- The kind of a refusal by the system for which no closer kind is known. -/
def systemKind : Text := "OSError"

/-- The kind of a refusal to go on at once, which may tell how much was done before. -/
def blockingKind : Text := "BlockingIOError"

def numberedKinds : List (Text × List Int) :=
  [("PermissionError", [1, 13]), ("FileNotFoundError", [2]), ("ProcessLookupError", [3]),
    ("InterruptedError", [4]), ("ChildProcessError", [10]), (blockingKind, [11, 114, 115]),
    ("FileExistsError", [17]), ("NotADirectoryError", [20]), ("IsADirectoryError", [21]),
    ("BrokenPipeError", [32, 108]), ("ConnectionAbortedError", [103]),
    ("ConnectionResetError", [104]), ("TimeoutError", [110]), ("ConnectionRefusedError", [111])]

def systemNames : List Text :=
  [systemKind, "IOError", "EnvironmentError"]

def systemKinds : List Text :=
  systemNames ++ "ConnectionError".toList :: numberedKinds.map (·.1)

/-- A refusal by the system: a number, a reason, and what it was about. -/
structure Refusal where
  number : Value
  reason : Value
  about : List Value

def refusal? (fault : ForeignFault) : Option Refusal :=
  match fault.arguments with
  | number :: reason :: about =>
    if systemKinds.contains fault.kind && about.length ≤ 3 then some ⟨number, reason, about⟩
    else none
  | _ => none

/-- The closest kind: a refusal raised under a general name goes by its number. -/
def closestKind (fault : ForeignFault) : Text :=
  if fault.kind ∈ systemNames then
    let number := fault.refusal?.bind fun refusal => refusal.number.whole?
    match numberedKinds.find? fun entry => number.any entry.2.contains with
    | some entry => entry.1
    | none => systemKind
  else fault.kind

def Refusal.line (refusal : Refusal) : Text :=
  let said := "[Errno " ++ refusal.number.plain ++ "] " ++ refusal.reason.plain
  match refusal.about with
  | [] => said
  | path :: more =>
    if path.isNull then said
    else
      let said := said ++ ": " ++ path.literal
      match more with
      | [_, other] => if other.isNull then said else said ++ " -> " ++ other.literal
      | _ => said

/-- What a refusal of a kind was about. Where not all could be done at once a number tells how much
was, and is no path. -/
def Refusal.ofKind (kind : Text) (refusal : Refusal) : Refusal :=
  match refusal.about with
  | path :: _ =>
    if kind = blockingKind && path.whole?.isSome then { refusal with about := [] } else refusal
  | [] => refusal

/-! ## Faults of codes -/

/-- The form of the only item between two positions. -/
def single? {α : Type} (items : List α) (start stop : Int) (form : α → Text) : Option Text :=
  if 0 ≤ start ∧ stop = start + 1 then items[start.toNat]?.map form else none

def shownOctet (b : UInt8) : Text :=
  "0x" ++ Text.Hex.octet b

def shownChar (c : Char) : Text :=
  '\'' :: Text.numberedChar c ++ ['\'']

def codecLine? (fault : ForeignFault) : Option Text :=
  match fault.arguments with
  | [.text code, object, start, stop, .text reason] => do
    let start ← start.whole?
    let stop ← stop.whole?
    let place ← (match object with
      | .octets _ bytes =>
        if fault.kind = "UnicodeDecodeError".toList then
          some ("decode " ++ stretch "byte" (single? bytes start stop shownOctet) start stop)
        else none
      | .text t =>
        if fault.kind = "UnicodeEncodeError".toList then
          some ("encode " ++ stretch "character" (single? t start stop shownChar) start stop)
        else none
      | _ => none)
    return '\'' :: code ++ "' codec can't " ++ place ++ ": " ++ reason
  | [.text t, start, stop, .text reason] => do
    let start ← start.whole?
    let stop ← stop.whole?
    if fault.kind = "UnicodeTranslateError".toList then
      return "can't translate "
        ++ stretch "character" (single? t start stop shownChar) start stop ++ ": " ++ reason
    else none
  | _ => none

/-! ## Faults of source texts -/

def sourceKinds : List Text :=
  ["SyntaxError", "IndentationError", "TabError"]

/-- A place in a source text: the file, the number of the line, the columns from and up to which it
reaches, and the line itself. -/
structure SourcePlace where
  file : Value := .null
  line : Value := .null
  column : Value := .null
  text : Value := .null
  columnAfter : Value := .null

/-- The place that the second of two arguments tells of. -/
def sourcePlace (fault : ForeignFault) : SourcePlace :=
  match fault.arguments with
  | [_, place] =>
    match place.elements? with
    | some [file, line, column, text] => ⟨file, line, column, text, .null⟩
    | some [file, line, column, text, _, columnAfter] => ⟨file, line, column, text, columnAfter⟩
    | _ => {}
  | _ => {}

/-- The number of a line as far as 64 bits go. -/
def lineNumber (i : Int) : Int :=
  if -9223372036854775808 ≤ i ∧ i < 9223372036854775808 then i else -1

/-- A fault of a source text on one line: what is wrong, and in brackets the last name of the file
and the number of the line. -/
def sourceLine (fault : ForeignFault) : Text :=
  let said := (fault.arguments.headD .null).plain
  let place := fault.sourcePlace
  let file := place.file.text?.map fun t => (Text.cutLast '/' t).2
  let line : Option Text :=
    match place.line with
    | .int i => some ("line " ++ Text.ofInt (lineNumber i))
    | _ => none
  match file.toList ++ line.toList with
  | [] => said
  | parts => said ++ " (" ++ Text.joinWith ", " parts ++ ")"

/-- The marks under a line from one column up to another. White space in the line before them stays
what it is. -/
def marks (indented : Nat) (bare : Text) (column columnAfter : Value) : Text :=
  match column with
  | .int i =>
    let after : Int :=
      match columnAfter with
      | .int j => if j = 0 ∨ j = i ∨ j = -1 then i + 1 else j
      | _ => i + 1
    let before := i - 1 - indented
    if before < 0 then []
    else
      "    " ++ (bare.take before.toNat).map (fun c => if Text.isBlank c then c else ' ')
        ++ List.replicate (after - i).toNat '^' ++ ['\n']
  | _ => []

/-- The line of a source text at a place, without the white space around it, and the marks under
it. -/
def SourcePlace.excerpt (place : SourcePlace) : Text :=
  match place.text with
  | .text t =>
    let line := (t.reverse.dropWhile (· = '\n')).reverse
    let bare := line.dropWhile fun c => c = ' ' || c = '\n' || c.toNat = 0x0C
    "    " ++ bare ++ '\n' :: marks (line.length - bare.length) bare place.column place.columnAfter
  | _ => []

def sourceTrace (fault : ForeignFault) : Text :=
  let place := fault.sourcePlace
  let file := place.file
  let head : Text :=
    if place.line.isNull then []
    else
      "  File \"" ++ (if file.isTruthy then file.plain else "<string>") ++ "\", line "
        ++ place.line.plain ++ ['\n']
  let said := fault.arguments.headD .null
  head ++ place.excerpt ++ fault.kind ++ ": "
    ++ (if said.isTruthy then said.plain else "<no detail available>")
    ++ (if place.line.isNull && !file.isNull then " (" ++ file.plain ++ ")" else [])

/-! ## Faults on one line -/

/-- A fault without special rules: nothing, its only argument, or all arguments in brackets. A
missing key is shown as a literal. -/
def plainLine (fault : ForeignFault) : Text :=
  match fault.arguments with
  | [] => []
  | [v] => if fault.kind = "KeyError".toList then v.literal else v.plain
  | vs => (Value.tuple vs).literal

def line (fault : ForeignFault) : Text :=
  match fault.refusal?, fault.codecLine? with
  | some refusal, _ => (refusal.ofKind fault.closestKind).line
  | none, some line => line
  | none, none => if fault.kind ∈ sourceKinds then fault.sourceLine else fault.plainLine

end ForeignFault
end SyncedFile
