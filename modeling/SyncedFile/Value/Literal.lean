import SyncedFile.Decimal.Notation
import SyncedFile.Text.Quoted
import SyncedFile.Value.Basic

/-!
# Values as text

A value has two texts: its literal, which shows what kind of value it is, and its plain text, which
for a text is the text itself.
-/

namespace SyncedFile.Value

/-- The literal of a row of octets of each kind. Only a fixed one escapes no more than the quote
around it. -/
def octetLiteral : OctetKind → List UInt8 → Text
  | .fixed, bytes => 'b' :: Text.quotedOctets (Text.quoteForOctets bytes) bytes
  | .editable, bytes => "bytearray(b" ++ Text.quotedOctets '\'' bytes ++ ")"
  | .view, _ => "<memory>"

mutual

def literal : Value → Text
  | null => "None"
  | bool true => "True"
  | bool false => "False"
  | int i => Text.ofInt i
  | float x => NumberStyle.plain.render x
  | text t => Text.quoted t
  | octets kind bytes => octetLiteral kind bytes
  | list items => '[' :: Text.joinWith ", " (literals items) ++ "]"
  | tuple [] => "()"
  | tuple [item] => '(' :: literal item ++ ",)"
  | tuple (item :: next :: more) =>
    '(' :: Text.joinWith ", " (literal item :: literal next :: literals more) ++ ")"
  | dict entries => '\x7b' :: Text.joinWith ", " (entryLiterals entries) ++ "\x7d"
  | path t => "PurePosixPath(" ++ Text.quoted t ++ ")"
  | callable name _ => "<fn " ++ name ++ ">"
  | object name => "<obj " ++ name ++ ">"

def literals : List Value → List Text
  | [] => []
  | v :: rest => literal v :: literals rest

def entryLiterals : List (Value × Value) → List Text
  | [] => []
  | (k, v) :: rest => (literal k ++ ": " ++ literal v) :: entryLiterals rest

end

def plain : Value → Text
  | text t => t
  | path t => t
  | v => literal v

/-- The beginning of a value's literal that messages show: a hundred characters. -/
def excerpt (v : Value) : Text :=
  (literal v).take 100

mutual

/-- How many values stand in each other, where one that holds no others counts as `leaf`. -/
def nesting (leaf : Nat) : Value → Nat
  | list items => nestingIn leaf items + 1
  | tuple items => nestingIn leaf items + 1
  | dict entries => nestingOf leaf entries + 1
  | _ => leaf

def nestingIn (leaf : Nat) : List Value → Nat
  | [] => 0
  | v :: rest => max (nesting leaf v) (nestingIn leaf rest)

def nestingOf (leaf : Nat) : List (Value × Value) → Nat
  | [] => 0
  | (k, v) :: rest => max (max (nesting leaf k) (nesting leaf v)) (nestingOf leaf rest)

end

@[simp] theorem plain_text (t : Text) : (Value.text t).plain = t := by
  simp [plain]

end SyncedFile.Value
