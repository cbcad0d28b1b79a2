import SyncedFile.Failure.Raised
import SyncedFile.Value.Equality

/-!
# Causes

What a record says was raised. A record that was made where something was raised has the trace of
it; a value put in its place later has to consist of a kind, what was raised, and its trace, which
is looked at only when the record is written.

* `Cause` — either of the two;
* `Cause.trace?` — the trace, none where there is nothing to tell, or what is wrong with the value.
-/

namespace SyncedFile.Log

/-- What a record says was raised. -/
inductive Cause where
  | raised (raised : Raised)
  | given (value : Value)

/-- What keeps a value from standing for a cause. -/
inductive CauseFault where
  /-- The value has no parts. -/
  | notIndexed (typeName : Text)
  /-- The value has too few parts, in the words for values of its kind. -/
  | tooShort (words : Text)
  | missing (index : Nat)
  | notATrace (typeName : Text)
  | notRaised (typeName : Text)
  deriving DecidableEq

def CauseFault.message : CauseFault → Text
  | notIndexed typeName => '\'' :: typeName ++ "' object is not subscriptable"
  | tooShort words => words
  | missing index => Text.ofNat index
  | notATrace typeName => '\'' :: typeName ++ "' object has no attribute 'tb_frame'"
  | notRaised typeName => '\'' :: typeName ++ "' object has no attribute '__suppress_context__'"

namespace Cause

/-- The item at a position of a row, or else the words for a row that is too short. -/
def itemOr (words : Text) (items : List Value) (index : Nat) : Except CauseFault Value :=
  match items[index]? with
  | some item => .ok item
  | none => .error (.tooShort words)

/-- The part of a value at a position, or of a dictionary under that number. -/
def part (value : Value) (index : Nat) : Except CauseFault Value :=
  let items := value.elements?.getD []
  match value with
  | .tuple _ => itemOr "tuple index out of range" items index
  | .list _ => itemOr "list index out of range" items index
  | .text _ => itemOr "string index out of range" items index
  | .octets .fixed _ => itemOr "index out of range" items index
  | .octets .editable _ => itemOr "bytearray index out of range" items index
  | .octets .view _ => itemOr "index out of bounds on dimension 1" items index
  | .dict entries =>
    match entries.find? fun entry => entry.1.equals (.int index) with
    | some entry => .ok entry.2
    | none => .error (.missing index)
  | value => .error (.notIndexed value.typeName)

/-- The trace that a value stands for. Only nothing at all can be told of by a value. -/
def given? (value : Value) : Except CauseFault Text := do
  let trace ← part value 2
  let _ ← part value 0
  let raised ← part value 1
  if !trace.isNull then throw (.notATrace trace.typeName)
  if !raised.isNull then throw (.notRaised raised.typeName)
  return raised.typeName ++ ": " ++ raised.literal

def trace? : Cause → Except CauseFault (Option Text)
  | .raised what => .ok (some what.trace)
  | .given value => if value.isTruthy then (given? value).map some else .ok none

end Cause
end SyncedFile.Log
