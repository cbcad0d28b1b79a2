import SyncedFile.Decimal.Binary64
import SyncedFile.Text.Basic

/-!
# Values

What a caller may hand in where a text or a number is expected. The library takes such values apart
itself, because it has to say which of them it refuses and to show them in messages.
-/

namespace SyncedFile

/-- The kinds of octet strings: a fixed one, one that can be edited, and a view of another. -/
inductive OctetKind where
  | fixed
  | editable
  | view
  deriving DecidableEq

/-- A value of any kind. A callable is known by its name, and so is an opaque object. -/
inductive Value where
  | null
  | bool (b : Bool)
  | int (i : Int)
  | float (x : Binary64)
  | text (t : Text)
  | octets (kind : OctetKind) (bytes : List UInt8)
  | list (items : List Value)
  | tuple (items : List Value)
  | dict (entries : List (Value × Value))
  | path (t : Text)
  | callable (name : Text) (falsy : Bool)
  | object (name : Text)

namespace Value

instance : Coe Text Value := ⟨Value.text⟩
instance : Inhabited Value := ⟨.null⟩

def isNull : Value → Bool
  | null => true
  | _ => false

/-- The value counts as present: it is not null, not zero, not empty and not marked as falsy. -/
def isTruthy : Value → Bool
  | null => false
  | bool b => b
  | int i => i != 0
  | float x => !x.isZero
  | text t => !t.isEmpty
  | octets _ bytes => !bytes.isEmpty
  | list items => !items.isEmpty
  | tuple items => !items.isEmpty
  | dict entries => !entries.isEmpty
  | path _ => true
  | callable _ falsy => !falsy
  | object _ => true

def isCallable : Value → Bool
  | callable _ _ => true
  | _ => false

def text? : Value → Option Text
  | text t => some t
  | _ => none

/-- The integer that a truth value or an integer stands for. -/
def whole? : Value → Option Int
  | bool b => some (if b then 1 else 0)
  | int i => some i
  | _ => none

def typeName : Value → Text
  | null => "NoneType"
  | bool _ => "bool"
  | int _ => "int"
  | float _ => "float"
  | text _ => "str"
  | octets .fixed _ => "bytes"
  | octets .editable _ => "bytearray"
  | octets .view _ => "memoryview"
  | list _ => "list"
  | tuple _ => "tuple"
  | dict _ => "dict"
  | path _ => "PurePosixPath"
  | callable _ _ => "Fn"
  | object _ => "Obj"

/-- The values that a value consists of, one after the other, if it can be gone through: the items
of a row, the characters of a text, octets as numbers, and the keys of a dictionary. -/
def elements? : Value → Option (List Value)
  | list items => some items
  | tuple items => some items
  | text t => some (t.map fun c => text [c])
  | octets _ bytes => some (bytes.map fun b => int b.toNat)
  | dict entries => some (entries.map (·.1))
  | _ => none

mutual

/-- The name of the kind that keeps a value from being an element of a set: a value that can be
edited, or a tuple that holds one. -/
def unhashable? : Value → Option Text
  | list _ => some (typeName (list []))
  | dict _ => some (typeName (dict []))
  | octets .editable _ => some (typeName (octets .editable []))
  | tuple items => unhashableIn? items
  | _ => none

def unhashableIn? : List Value → Option Text
  | [] => none
  | v :: rest => (unhashable? v).or (unhashableIn? rest)

end

@[simp] theorem isTruthy_text (t : Text) : (Value.text t).isTruthy = !t.isEmpty := rfl

end Value
end SyncedFile
