import SyncedFile.Log.Cause
import SyncedFile.Log.Event
import SyncedFile.Log.Time
import SyncedFile.Text.LetterCase

/-!
# Records

A record is what reaches the log: where it comes from, how urgent it is, a message that may still
have to be filled, the moment, what was raised, and further fields.

* `levels`, `levelName` — the levels of the log by name and number;
* `Entry` — what a record holds under a name;
* `Record` — a record, and `Record.text`, its message when filled;
* `Record.assign` — a named attribute set after the fact;
* `Record.ofEvent` — the record of an event.
-/

namespace SyncedFile.Log

def levels : List (Text × Int) :=
  [("CRITICAL", 50), ("ERROR", 40), ("WARNING", 30), ("INFO", 20), ("DEBUG", 10), ("NOTSET", 0),
    ("FATAL", 50), ("WARN", 30)]

/-- The name of a level's number, and the number of a level's name. What is neither is named by
itself. -/
def levelName (level : Value) : Value :=
  match levels.find? fun entry => level.equals (.int entry.2) with
  | some entry => .text entry.1
  | none =>
    match levels.find? fun entry => level.equals (.text entry.1) with
    | some entry => .int entry.2
    | none => .text ("Level " ++ level.plain)

/-- The number of a level's name, in any letter case. -/
def levelNumber? (name : Text) : Option Int :=
  (levels.find? (·.1 = Text.upper name)).map (·.2)

/-- What stands under a name: a value, or a text that may have halves of pairs. -/
inductive Entry where
  | value (v : Value)
  | row (points : Points)

instance : Coe Value Entry := ⟨.value⟩

/-- A record. Logger, level and message are shown as they were handed in. -/
structure Record where
  logger : Value
  level : Value
  message : Value
  /-- What the message is filled from. -/
  arguments : Value := .tuple []
  moment : Moment
  /-- What was raised. -/
  cause : Option Cause := none
  /-- Further fields, in the order in which they were first set. -/
  fields : List (Text × Entry) := []

/-- The entries with the value of `key` set: in its old place, or else at the end. -/
def put {α : Type} (key : Text) (value : α) : List (Text × α) → List (Text × α)
  | [] => [(key, value)]
  | entry :: rest =>
    if entry.1 = key then (key, value) :: rest else entry :: put key value rest

namespace Record

def text (record : Record) : Except TemplateFault Points :=
  if record.arguments.isTruthy then fill record.message.plain record.arguments
  else .ok record.message.plain

/-! ## Attributes -/

/-- The names under which a record keeps what is its own. No field goes by one of them. -/
def ownNames : List Text :=
  ["name", "msg", "args", "created", "filename", "funcName", "levelname", "levelno", "lineno",
    "module", "msecs", "pathname", "process", "processName", "relativeCreated", "stack_info",
    "exc_info", "exc_text", "thread", "threadName", "message", "taskName"]

/-- The record with an attribute set. Own attributes that lines show are replaced, other own ones
make no difference, and all else is a field. -/
def assign (record : Record) (name : Text) (value : Value) : Record :=
  if name = "name".toList then { record with logger := value }
  else if name = "levelname".toList then { record with level := value }
  else if name = "msg".toList then { record with message := value }
  else if name = "args".toList then { record with arguments := value }
  else if name = "created".toList then
    { record with moment := { record.moment with seconds := value } }
  else if name = "msecs".toList then
    { record with moment := { record.moment with millis := value } }
  else if name = "exc_info".toList then { record with cause := some (.given value) }
  else if name ∈ ownNames then record
  else { record with fields := put name (.value value) record.fields }

def ofEvent (logger : Text) (moment : Moment) (event : Event) : Record where
  logger := .text logger
  level := .text event.level.name
  message := .text event.message
  moment := moment
  fields := event.fields.map fun field => (field.1, .value field.2)

theorem text_ofEvent (logger : Text) (moment : Moment) (event : Event) :
    (ofEvent logger moment event).text = .ok event.message := by
  simp [text, ofEvent, Value.isTruthy]

end Record
end SyncedFile.Log
