import SyncedFile.Json.Basic
import SyncedFile.Value.Basic

/-!
# Values as JSON

Which values can be written as JSON, and how: texts, numbers, truth values and the null as they are,
lists and tuples as arrays, and dictionaries whose keys are texts, numbers, truth values or null.
-/

namespace SyncedFile.Json

/-- Why a value cannot be written. -/
inductive Fault where
  | value (typeName : Text)
  | key (typeName : Text)
  /-- The value is nested more deeply than there is room for. -/
  | tooDeep
  deriving DecidableEq

def Fault.message : Fault → Text
  | value typeName => "Object of type " ++ typeName ++ " is not JSON serializable"
  | key typeName => "keys must be str, int, float, bool or None, not " ++ typeName
  | tooDeep => "maximum recursion depth exceeded while encoding a JSON object"

def keyOf : Value → Except Fault Text
  | .text t => .ok t
  | .null => .ok (scalar null)
  | .bool b => .ok (scalar (bool b))
  | .int i => .ok (scalar (int i))
  | .float x => .ok (scalar (float x))
  | v => .error (.key v.typeName)

/-- The room inside a row or a dictionary, where there is room for `room` of them in each other. -/
def inside : Option Nat → Except Fault (Option Nat)
  | none => .ok none
  | some 0 => .error .tooDeep
  | some (room + 1) => .ok (some room)

mutual

/-- A value as JSON, where `room` rows and dictionaries may stand in each other. -/
def ofValueWithin (room : Option Nat) : Value → Except Fault Json
  | .null => .ok null
  | .bool b => .ok (bool b)
  | .int i => .ok (int i)
  | .float x => .ok (float x)
  | .text t => .ok (text t)
  | .list items => do return array (← ofValuesWithin (← inside room) items)
  | .tuple items => do return array (← ofValuesWithin (← inside room) items)
  | .dict entries => do return object (← ofEntriesWithin (← inside room) entries)
  | .octets kind bytes => .error (.value (Value.octets kind bytes).typeName)
  | .path t => .error (.value (Value.path t).typeName)
  | .callable name falsy => .error (.value (Value.callable name falsy).typeName)
  | .object name => .error (.value (Value.object name).typeName)

def ofValuesWithin (room : Option Nat) : List Value → Except Fault (List Json)
  | [] => .ok []
  | v :: rest => do return (← ofValueWithin room v) :: (← ofValuesWithin room rest)

def ofEntriesWithin (room : Option Nat) : List (Value × Value) → Except Fault (List (Text × Json))
  | [] => .ok []
  | (k, v) :: rest => do
    let key ← keyOf k
    return (key, ← ofValueWithin room v) :: (← ofEntriesWithin room rest)

end

def ofValue (v : Value) : Except Fault Json :=
  ofValueWithin none v

end SyncedFile.Json
