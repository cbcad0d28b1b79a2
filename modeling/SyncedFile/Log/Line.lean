import SyncedFile.Json.OfValue
import SyncedFile.Log.Record

/-!
# Lines

A record is written as one line in one of two forms. The plain form has moment, logger, level and
message. The JSON form is an object that has these and the name of the host, what was raised, and
the further fields; a field that has no JSON form is written as its plain text. There may be limits
to how deeply a value is nested that is written.

* `Room` — the limits;
* `Record.entriesWithin` — what the JSON form shows, in order;
* `Record.jsonLineWithin`, `Record.plainLine` — the two forms;
* `Record.stamped` — what the plain form leaves on a record.
-/

namespace SyncedFile.Log

/-- What keeps a record from being written. -/
inductive LineFault where
  | time (fault : TimeFault)
  | message (fault : TemplateFault)
  | cause (fault : CauseFault)
  | value (fault : Json.Fault)
  /-- The literal of a field is nested more deeply than there is room for. -/
  | literal
  deriving DecidableEq

def LineFault.reason : LineFault → Text
  | time fault => fault.message
  | message fault => fault.message
  | cause fault => fault.message
  | value fault => fault.message
  | literal => "maximum recursion depth exceeded while getting the repr of an object"

def unknownHost : Text := "unknown"

/-- How many values may stand in each other where they are written as JSON, and as literals. -/
structure Room where
  json : Option Nat := none
  literal : Option Nat := none

def Entry.jsonWithin (room : Option Nat) : Entry → Except Json.Fault Json
  | value v => Json.ofValueWithin room v
  | row points => .ok (.text points)

/-- A value that has a JSON form stays as it is; any other is shown as its plain text. -/
def presentableWithin (room : Room) : Entry → Except LineFault Entry
  | .row points => .ok (.row points)
  | .value v =>
    match Json.ofValueWithin room.json v with
    | .ok _ => .ok v
    | .error .tooDeep => .error (.value .tooDeep)
    | .error _ =>
      if room.literal.any (· < v.nesting 1) then .error .literal else .ok (Value.text v.plain)

namespace Record

def timeText (record : Record) : Except LineFault Text :=
  record.moment.text.mapError .time

def messageText (record : Record) : Except LineFault Points :=
  record.text.mapError .message

def trace? (record : Record) : Except LineFault (Option Text) :=
  match record.cause with
  | none => .ok none
  | some cause => cause.trace?.mapError .cause

def ownEntries (host time : Text) (message : Points) (trace : Option Text) (record : Record) :
    List (Text × Entry) :=
  let standing : List (Text × Entry) :=
    [("timestamp", Value.text time), ("level", record.level), ("logger", record.logger),
      ("message", .row message), ("hostname", Value.text host)]
  match trace with
  | none => standing
  | some trace => standing ++ [("exception".toList, .value (.text trace))]

/-- Fields put among entries: a field takes the place of an entry of the same name. -/
def withFieldsWithin (room : Room) (entries : List (Text × Entry)) :
    List (Text × Entry) → Except LineFault (List (Text × Entry))
  | [] => .ok entries
  | (name, entry) :: fields => do
    let shown ← presentableWithin room entry
    withFieldsWithin room (put name shown entries) fields

def shownFields (showsFields : Bool) (record : Record) : List (Text × Entry) :=
  if showsFields then record.fields else []

def entriesWithin (room : Room) (host : Text) (showsFields : Bool) (record : Record) :
    Except LineFault (List (Text × Entry)) := do
  let time ← record.timeText
  let message ← record.messageText
  let trace ← record.trace?
  withFieldsWithin room (record.ownEntries host time message trace) (record.shownFields showsFields)

def jsonOfEntries (room : Option Nat) : List (Text × Entry) → Except Json.Fault (List (Text × Json))
  | [] => .ok []
  | (name, entry) :: rest => do return (name, ← entry.jsonWithin room) :: (← jsonOfEntries room rest)

def jsonWithin (room : Room) (host : Text) (showsFields : Bool) (record : Record) :
    Except LineFault Json := do
  let entries ← record.entriesWithin room host showsFields
  let json ← (Json.inside room.json >>= (jsonOfEntries · entries)).mapError .value
  return .object json

def jsonLineWithin (room : Room) (host : Text) (showsFields : Bool) (record : Record) :
    Except LineFault Text :=
  (record.jsonWithin room host showsFields).map Json.render

def jsonLine (host : Text) (showsFields : Bool) (record : Record) : Except LineFault Text :=
  record.jsonLineWithin {} host showsFields

def plainLine (record : Record) : Except LineFault Points := do
  let message ← record.messageText
  let time ← record.timeText
  let opening := time ++ " - " ++ record.logger.plain ++ " - " ++ record.level.plain ++ " - "
  return opening.points ++ message

/-- The record after it was written in the plain form, which leaves the text of the moment among
the fields. -/
def stamped (record : Record) : Record :=
  match record.messageText, record.timeText with
  | .ok _, .ok time => { record with fields := put "asctime" (Value.text time) record.fields }
  | _, _ => record

end Record
end SyncedFile.Log
