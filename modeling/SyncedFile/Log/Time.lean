import SyncedFile.Log.Template

/-!
# Moments

A moment as seconds since the beginning of 1970 and milliseconds, and how log lines write it: the
date in the Gregorian calendar, the time of day, a comma, and milliseconds. Both numbers are taken
as they were handed in, so that writing a moment may fail.

* `Moment`, `Moment.text` — a moment, and its text or what keeps it from being written;
* `Day.ofCount`, `clockText` — the calendar, and a count of seconds as date and time of day.
-/

namespace SyncedFile.Log

/-- What keeps a moment from being written. -/
inductive TimeFault where
  | notANumber
  /-- The seconds are no number of any kind. -/
  | notAnInteger (typeName : Text)
  /-- The clock does not count that far. -/
  | beyondClock
  /-- The calendar does not reach that far. -/
  | beyondCalendar
  /-- The calendar reaches that far, but the number of the year does not. -/
  | beyondYears
  | millis (fault : TemplateFault)
  deriving DecidableEq

def TimeFault.message : TimeFault → Text
  | notANumber => "Invalid value NaN (not a number)"
  | notAnInteger typeName =>
    '\'' :: typeName ++ "' object cannot be interpreted as an integer"
  | beyondClock => "timestamp out of range for platform time_t"
  | beyondCalendar => "[Errno 75] Value too large for defined data type"
  | beyondYears => "signed integer is greater than maximum"
  | millis fault => fault.message

/-! ## The calendar -/

/-- A day of the Gregorian calendar. -/
structure Day where
  year : Int
  month : Int
  day : Int

/-- The day that lies so many days after the first of January 1970. Years are counted from March
on, so that a leap day is the last day of its year. -/
def Day.ofCount (count : Int) : Day :=
  let shifted := count + 719468
  let era := shifted.fdiv 146097
  let dayOfEra := shifted - era * 146097
  let yearOfEra :=
    (dayOfEra - dayOfEra.fdiv 1460 + dayOfEra.fdiv 36524 - dayOfEra.fdiv 146096).fdiv 365
  let dayOfYear := dayOfEra - (365 * yearOfEra + yearOfEra.fdiv 4 - yearOfEra.fdiv 100)
  let monthFromMarch := (5 * dayOfYear + 2).fdiv 153
  let month := if monthFromMarch < 10 then monthFromMarch + 3 else monthFromMarch - 9
  { year := yearOfEra + era * 400 + (if month ≤ 2 then 1 else 0)
    month := month
    day := dayOfYear - (153 * monthFromMarch + 2).fdiv 5 + 1 }

def twoDigits (i : Int) : Text :=
  Text.padLeft '0' 2 (Text.ofInt i)

def clockText (day : Day) (secondOfDay : Int) : Text :=
  Text.ofInt day.year ++ '-' :: twoDigits day.month ++ '-' :: twoDigits day.day
    ++ ' ' :: twoDigits (secondOfDay / 3600) ++ ':' :: twoDigits (secondOfDay / 60 % 60)
    ++ ':' :: twoDigits (secondOfDay % 60)

/-- The clock counts seconds in 64 bits, with a sign. -/
def clockLimit : Int := 9223372036854775808

/-- Years are counted in 32 bits, with a sign; the calendar counts them from 1900 on. -/
def yearLimit : Int := 2147483648

def calendarStart : Int := 1900

def clockTextOf (seconds : Int) : Except TimeFault Text :=
  let day := Day.ofCount (seconds.fdiv 86400)
  let year := day.year - calendarStart
  if year < -yearLimit ∨ yearLimit ≤ year then .error .beyondCalendar
  else if yearLimit ≤ day.year then .error .beyondYears
  else .ok (clockText day (seconds.fmod 86400))

/-! ## Moments -/

def heldByClock (seconds : Int) : Except TimeFault Int :=
  if -clockLimit ≤ seconds ∧ seconds < clockLimit then .ok seconds else .error .beyondClock

def wholeSeconds (value : Value) : Except TimeFault Int :=
  match value with
  | .float (.nan _) => .error .notANumber
  | .float x =>
    match x.floor? with
    | some i => heldByClock i
    | none => .error .beyondClock
  | value =>
    match value.whole? with
    | some i => heldByClock i
    | none => .error (.notAnInteger value.typeName)

/-- A moment in universal time, as it was handed in. -/
structure Moment where
  seconds : Value
  millis : Value

namespace Moment

def ofNumbers (seconds millis : Int) : Moment where
  seconds := .int seconds
  millis := .int millis

def text (moment : Moment) : Except TimeFault Text := do
  let seconds ← wholeSeconds moment.seconds
  let clock ← clockTextOf seconds
  let millis ← (convertText { zeros := true, width := 3 } 'd' 0 moment.millis).mapError .millis
  return clock ++ ',' :: millis

end Moment
end SyncedFile.Log
