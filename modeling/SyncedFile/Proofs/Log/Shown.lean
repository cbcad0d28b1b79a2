import Mathlib.Data.List.Nodup
import SyncedFile.Log.Line
import SyncedFile.Proofs.Json.Depth
import SyncedFile.Proofs.Json.ReadBack

/-!
# What the JSON form of a record shows

A record as it is made where something is logged, with fields under names that are not its own, has
a JSON form whenever its message can be filled, its moment can be written and what it shows is not
nested too deeply. The line is printable ASCII, and what is read back from it is each field, and
each entry of the record's own under whose name there is no field.

* `Record.IsGenuine` — such a record; `IsGenuine.assign` — fields may be added at will;
* `Record.FitsIn` — the record shows nothing that is nested too deeply;
* `Record.exists_lineWithin` — the line of such a record and what is read back from it;
* `mem_withFields_iff` — which entries are shown.
-/

namespace SyncedFile

/-- A value as JSON shows it: in its JSON form, or else as its plain text. -/
def Value.shown (v : Value) : Reading :=
  match Json.ofValue v with
  | .ok json => json.reading
  | .error _ => .text v.plain

@[simp] theorem Value.shown_text (t : Text) : (Value.text t).shown = .text t := by
  simp [Value.shown, Json.ofValue, Json.ofValueWithin, Json.reading]

namespace Reading

variable {entries : List (Points × Reading)} {name : Text} {reading : Reading}

theorem field?_eq_some_iff (once : (entries.map (·.1)).Nodup) :
    (object entries).field? name = some reading ↔ (name.points, reading) ∈ entries := by
  have same {a b : Points × Reading} (inA : a ∈ entries) (inB : b ∈ entries) (named : a.1 = b.1) :
      a = b := List.inj_on_of_nodup_map once inA inB named
  simp only [field?, Option.map_eq_some_iff, Prod.exists]
  constructor
  · rintro ⟨found, value, here, rfl⟩
    have named : found = name.points := by simpa using List.find?_some here
    simpa [named] using List.mem_of_find?_eq_some here
  · intro mem
    cases here : entries.reverse.find? (·.1 = name.points) with
    | none => simpa using List.find?_eq_none.1 here (name.points, reading) (by simpa using mem)
    | some entry =>
      have named : entry.1 = name.points := by simpa using List.find?_some here
      have inside : entry ∈ entries := by simpa using List.mem_of_find?_eq_some here
      rw [same inside mem named]
      exact ⟨name.points, reading, rfl, rfl⟩

end Reading

namespace Log

/-! ## Values -/

/-- What is read back where an entry is shown. -/
def Entry.shown : Entry → Reading
  | value v => v.shown
  | row points => .text points.joined

/-- An entry as it is shown: a value that has no JSON form is shown as its plain text. -/
def presentable : Entry → Entry
  | .row points => .row points
  | .value v =>
    match Json.ofValue v with
    | .ok _ => v
    | .error _ => Value.text v.plain

/-- There is room for an entry inside an object. -/
def Room.Holds (room : Room) : Entry → Prop
  | .row _ => True
  | .value v => (∀ n ∈ room.json, v.nesting 0 < n) ∧ ∀ n ∈ room.literal, v.nesting 1 ≤ n

variable {name key : Text} {v : Value} {value entry : Entry} {entries fields : List (Text × Entry)}
  {room : Room} {limit : Option Nat}

theorem Room.holds_unlimited (entry : Entry) : Room.Holds {} entry := by
  cases entry with
  | row points => trivial
  | value v => exact ⟨nofun, nofun⟩

theorem shown_presentable (entry : Entry) : (presentable entry).shown = entry.shown := by
  cases entry with
  | row points => rfl
  | value v =>
    rw [presentable]
    split
    case h_1 => rfl
    case h_2 fault refused =>
      rw [Entry.shown, Entry.shown, Value.shown_text, Value.shown, refused]

theorem presentableWithin_of_holds (held : room.Holds entry) :
    presentableWithin room entry = .ok (presentable entry) := by
  cases entry with
  | row points => rfl
  | value v =>
    have literal : ¬room.literal.any (· < v.nesting 1) := by
      rw [Option.any_eq_true]
      rintro ⟨n, given, short⟩
      exact absurd (of_decide_eq_true short) (Nat.not_lt.2 (held.2 n given))
    rw [presentableWithin, presentable,
      Json.ofValueWithin_of_fits fun n given => Nat.le_of_lt (held.1 n given), if_neg literal]
    cases formed : Json.ofValue v with
    | ok json => rfl
    | error fault =>
      cases fault with
      | tooDeep => exact absurd formed (Json.ofValue_ne_tooDeep v)
      | value | key => rfl

/-- An entry is written so that it is read back as it is to be shown. -/
def Entry.IsWritten (limit : Option Nat) (entry : Entry) : Prop :=
  ∃ json, entry.jsonWithin limit = .ok json ∧ json.reading = entry.shown

theorem Entry.isWritten_of_fits (fits : ∀ n ∈ limit, v.nesting 0 ≤ n)
    (formed : ∃ json, Json.ofValue v = .ok json) : IsWritten limit (.value v) := by
  obtain ⟨json, formed⟩ := formed
  refine ⟨json, (Json.ofValueWithin_of_fits fits).trans formed, ?_⟩
  rw [shown, Value.shown, formed]

theorem Entry.isWritten_text (limit : Option Nat) (t : Text) :
    IsWritten limit (.value (.text t)) :=
  isWritten_of_fits (fun _ _ => Nat.zero_le _) ⟨_, rfl⟩

theorem Entry.isWritten_row (limit : Option Nat) (points : Points) : IsWritten limit (.row points) :=
  ⟨_, rfl, rfl⟩

theorem isWritten_presentable {v : Value} (fits : ∀ n ∈ limit, v.nesting 0 ≤ n) :
    (presentable (.value v)).IsWritten limit := by
  rw [presentable]
  split
  case h_1 json formed => exact Entry.isWritten_of_fits fits ⟨json, formed⟩
  case h_2 => exact Entry.isWritten_text limit _

theorem exists_jsonOfEntries (written : ∀ entry ∈ entries, entry.2.IsWritten limit) :
    ∃ json, Record.jsonOfEntries limit entries = .ok json ∧
      Json.readingEntries json = entries.map fun entry => (entry.1.points, entry.2.shown) := by
  induction entries with
  | nil => exact ⟨[], rfl, rfl⟩
  | cons entry entries ih =>
    obtain ⟨first, formed, shown⟩ := written entry (by simp)
    obtain ⟨json, others, read⟩ := ih fun entry mem => written entry (List.mem_cons_of_mem _ mem)
    refine ⟨(entry.1, first) :: json, ?_, ?_⟩
    · simp only [Record.jsonOfEntries, formed, others, bind, Except.bind, pure, Except.pure]
    · simp [Json.readingEntries, read, shown]

/-! ## Entries by name -/

theorem names_put (key : Text) (value : Entry) (entries : List (Text × Entry)) :
    (put key value entries).map (·.1) =
      if key ∈ entries.map (·.1) then entries.map (·.1) else entries.map (·.1) ++ [key] := by
  induction entries with
  | nil => rfl
  | cons entry entries ih =>
    by_cases here : entry.1 = key
    · simp [put, here]
    · have other : key ≠ entry.1 := Ne.symm here
      simp only [put, if_neg here, List.map_cons, ih, List.mem_cons, other, false_or]
      split <;> rfl

theorem nodup_put (once : (entries.map (·.1)).Nodup) :
    ((put key value entries).map (·.1)).Nodup := by
  rw [names_put]
  split
  case isTrue => exact once
  case isFalse new => exact List.Nodup.append once (List.nodup_singleton key) (by simpa using new)

theorem mem_put_iff (once : (entries.map (·.1)).Nodup) :
    (name, entry) ∈ put key value entries ↔
      name = key ∧ entry = value ∨ name ≠ key ∧ (name, entry) ∈ entries := by
  induction entries with
  | nil => simp [put]
  | cons first entries ih =>
    simp only [List.map_cons, List.nodup_cons] at once
    by_cases here : first.1 = key
    · have absent : ∀ w, (key, w) ∉ entries := by
        intro w mem
        exact once.1 (here ▸ List.mem_map_of_mem mem)
      by_cases named : name = key
      · subst named
        simp [put, here, absent]
      · have other : (name, entry) ≠ first := by
          rintro rfl
          exact named here
        simp [put, here, named, other]
    · have kept : (name, entry) = first → name ≠ key := by
        rintro rfl
        exact here
      simp only [put, if_neg here, List.mem_cons, ih once.2]
      constructor
      · rintro (same | set | ⟨other, mem⟩)
        · exact .inr ⟨kept same, .inl same⟩
        · exact .inl set
        · exact .inr ⟨other, .inr mem⟩
      · rintro (set | ⟨other, same | mem⟩)
        · exact .inr (.inl set)
        · exact .inl same
        · exact .inr (.inr ⟨other, mem⟩)

/-- Fields put among entries, where nothing is nested too deeply. -/
def withFields (entries fields : List (Text × Entry)) : List (Text × Entry) :=
  fields.foldl (fun entries field => put field.1 (presentable field.2) entries) entries

theorem withFieldsWithin_of_holds (held : ∀ field ∈ fields, room.Holds field.2) :
    Record.withFieldsWithin room entries fields = .ok (withFields entries fields) := by
  induction fields generalizing entries with
  | nil => rfl
  | cons field fields ih =>
    obtain ⟨first, others⟩ := List.forall_mem_cons.1 held
    simp only [Record.withFieldsWithin, presentableWithin_of_holds first, bind, Except.bind]
    exact ih others

theorem nodup_withFields (once : (entries.map (·.1)).Nodup) :
    ((withFields entries fields).map (·.1)).Nodup := by
  induction fields generalizing entries with
  | nil => exact once
  | cons field fields ih => exact ih (nodup_put once)

/-- Fields shown among entries: each field is shown, and each entry whose name no field has. -/
theorem mem_withFields_iff (once : (entries.map (·.1)).Nodup) (each : (fields.map (·.1)).Nodup) :
    (name, entry) ∈ withFields entries fields ↔
      (∃ field, (name, field) ∈ fields ∧ entry = presentable field) ∨
        name ∉ fields.map (·.1) ∧ (name, entry) ∈ entries := by
  -- The fields are put in one after the other, so the entries change from step to step.
  induction fields generalizing entries with
  | nil => simp [withFields]
  | cons first fields ih =>
    simp only [List.map_cons, List.nodup_cons] at each
    have still : ((put first.1 (presentable first.2) entries).map (·.1)).Nodup := nodup_put once
    refine (ih still each.2).trans ?_
    rw [mem_put_iff once]
    by_cases named : name = first.1
    · subst named
      have absent : ∀ field, (first.1, field) ∉ fields :=
        fun field mem => each.1 (List.mem_map.2 ⟨_, mem, rfl⟩)
      simp [absent, each.1, Prod.ext_iff]
    · have other : ∀ field, (name, field) ≠ first := by
        rintro field rfl
        exact named rfl
      simp [named, other]

/-! ## Moments -/

/-- A number of seconds, more than thirty million years, over which the calendar reaches. -/
def calendarReach : Nat := 1000000000000000

theorem exists_clockTextOf {seconds : Int} (near : seconds.natAbs ≤ calendarReach) :
    ∃ clock, clockTextOf seconds = .ok clock := by
  rw [calendarReach] at near
  -- Over so many seconds there are fewer than forty million years, and the calendar has more.
  have year : -40000000 < (Day.ofCount (seconds.fdiv 86400)).year ∧
      (Day.ofCount (seconds.fdiv 86400)).year < 40000000 := by
    have whole (i : Int) {d : Int} (positive : 0 ≤ d) : i.fdiv d = i / d :=
      Int.fdiv_eq_ediv_of_nonneg i positive
    simp only [Day.ofCount, whole _ (show (0 : Int) ≤ 86400 by decide),
      whole _ (show (0 : Int) ≤ 146097 by decide), whole _ (show (0 : Int) ≤ 1460 by decide),
      whole _ (show (0 : Int) ≤ 36524 by decide), whole _ (show (0 : Int) ≤ 146096 by decide),
      whole _ (show (0 : Int) ≤ 365 by decide)]
    split <;> omega
  have inCalendar : ¬ ((Day.ofCount (seconds.fdiv 86400)).year - calendarStart < -yearLimit ∨
      yearLimit ≤ (Day.ofCount (seconds.fdiv 86400)).year - calendarStart) := by
    simp only [calendarStart, yearLimit]
    omega
  have inYears : ¬ yearLimit ≤ (Day.ofCount (seconds.fdiv 86400)).year := by
    simp only [yearLimit]
    omega
  exact ⟨_, by rw [clockTextOf, if_neg inCalendar, if_neg inYears]⟩

/-- A moment not too far away can be written. Its seconds and its milliseconds may be given in any
form that stands for a whole number. -/
theorem Moment.exists_text {moment : Moment} {seconds millis : Int}
    (counted : wholeSeconds moment.seconds = .ok seconds) (near : seconds.natAbs ≤ calendarReach)
    (whole : toInteger 'd' moment.millis = .ok millis) : ∃ time, moment.text = .ok time := by
  obtain ⟨clock, written⟩ := exists_clockTextOf near
  have digits : ∃ digits, convertText { zeros := true, width := 3 } 'd' 0 moment.millis =
      .ok digits := by
    simp only [convertText, whole]
    exact ⟨_, rfl⟩
  obtain ⟨digits, converted⟩ := digits
  refine ⟨clock ++ ',' :: digits, ?_⟩
  simp only [Moment.text, counted, written, converted, bind, Except.bind, Except.mapError]
  rfl

/-! ## Records -/

namespace Record

variable {record : Record} {host time : Text} {message : Points} {trace : Option Text}
  {showsFields : Bool} {left : Option Nat}

/-- A record as it is made where something is logged. Its logger and its level have JSON forms, its
moment can be written, and what was raised comes with its trace. No field has the name of another or
one of the record's own. -/
structure IsGenuine (record : Record) : Prop where
  logger : ∃ json, Json.ofValue record.logger = .ok json
  level : ∃ json, Json.ofValue record.level = .ok json
  moment : ∃ time, record.moment.text = .ok time
  cause : ∀ value, record.cause ≠ some (.given value)
  once : (record.fields.map (·.1)).Nodup
  notOwn : ∀ name ∈ record.fields.map (·.1), name ∉ ownNames

/-- The record of a call that logs something, before fields are added to it. -/
theorem isGenuine_logged (logger level : Text) (message arguments : Value) {moment : Moment}
    (timed : ∃ time, moment.text = .ok time) (raised : Option Raised) :
    IsGenuine {
      logger := .text logger
      level := .text level
      message := message
      arguments := arguments
      moment := moment
      cause := raised.map .raised } where
  logger := ⟨_, rfl⟩
  level := ⟨_, rfl⟩
  moment := timed
  cause := by cases raised <;> simp
  once := List.nodup_nil
  notOwn := by simp

def shownNames : List Text :=
  ["name", "levelname", "msg", "args", "created", "msecs", "exc_info"]

namespace IsGenuine

/-- Any name may be set but those under which lines show what is the record's own: it becomes a
field, or makes no difference where it is another one of the record's own. -/
theorem assign (genuine : record.IsGenuine) (notShown : key ∉ shownNames) (value : Value) :
    (record.assign key value).IsGenuine := by
  have other {name : Text} (shown : name ∈ shownNames) : key ≠ name := by
    rintro rfl
    exact notShown shown
  rw [Record.assign, if_neg (other (by decide)), if_neg (other (by decide)),
    if_neg (other (by decide)), if_neg (other (by decide)), if_neg (other (by decide)),
    if_neg (other (by decide)), if_neg (other (by decide))]
  split
  · exact genuine
  · next notOwn =>
    refine { genuine with once := nodup_put genuine.once, notOwn := ?_ }
    intro name mem
    rw [names_put] at mem
    split at mem
    · exact genuine.notOwn name mem
    · rcases List.mem_append.1 mem with mem | mem
      · exact genuine.notOwn name mem
      · rw [List.mem_singleton.1 mem]
        exact notOwn

end IsGenuine

/-- There is room for all that a record shows. -/
structure FitsIn (room : Room) (showsFields : Bool) (record : Record) : Prop where
  logger : room.Holds record.logger
  level : room.Holds record.level
  fields : ∀ field ∈ record.shownFields showsFields, room.Holds field.2

theorem fitsIn_unlimited (showsFields : Bool) (record : Record) : record.FitsIn {} showsFields where
  logger := Room.holds_unlimited _
  level := Room.holds_unlimited _
  fields _ _ := Room.holds_unlimited _

theorem nodup_ownEntries (record : Record) (host time : Text) (message : Points)
    (trace : Option Text) : ((record.ownEntries host time message trace).map (·.1)).Nodup := by
  cases trace with
  | none =>
    show List.Nodup ["timestamp".toList, "level", "logger", "message", "hostname"]
    decide
  | some trace =>
    show List.Nodup ["timestamp".toList, "level", "logger", "message", "hostname", "exception"]
    decide

theorem mem_ownEntries_message (record : Record) (host time : Text) (message : Points)
    (trace : Option Text) :
    ("message".toList, .row message) ∈ record.ownEntries host time message trace := by
  cases trace <;> simp [ownEntries]

theorem entriesWithin_eq_ok (filled : record.text = .ok message)
    (timed : record.moment.text = .ok time) (traced : record.trace? = .ok trace) (host : Text)
    (held : ∀ field ∈ record.shownFields showsFields, room.Holds field.2) :
    record.entriesWithin room host showsFields =
      .ok (withFields (record.ownEntries host time message trace)
        (record.shownFields showsFields)) := by
  simp only [entriesWithin, timeText, timed, messageText, filled, traced, bind, Except.bind,
    Except.mapError]
  exact withFieldsWithin_of_holds held

theorem jsonLineWithin_eq_ok {json : List (Text × Json)}
    (shown : record.entriesWithin room host showsFields = .ok entries)
    (enters : Json.inside room.json = .ok left) (written : jsonOfEntries left entries = .ok json) :
    record.jsonLineWithin room host showsFields = .ok (Json.object json).render := by
  simp only [jsonLineWithin, jsonWithin, shown, enters, bind, Except.bind, written]
  rfl

namespace IsGenuine

theorem nodup_shownFields (genuine : record.IsGenuine) (showsFields : Bool) :
    ((record.shownFields showsFields).map (·.1)).Nodup := by
  cases showsFields with
  | false => exact List.nodup_nil
  | true => exact genuine.once

/-- The name of the message is the record's own, so no field has it. -/
theorem message_notMem_shownFields (genuine : record.IsGenuine) (showsFields : Bool) :
    "message".toList ∉ (record.shownFields showsFields).map (·.1) := by
  cases showsFields with
  | false => simp [shownFields]
  | true => exact fun mem => genuine.notOwn _ mem (by decide)

theorem exists_jsonOfEntries (genuine : record.IsGenuine) (fits : record.FitsIn room showsFields)
    (host time : Text) (message : Points) (trace : Option Text) :
    ∃ left json, Json.inside room.json = .ok left ∧
      jsonOfEntries left (withFields (record.ownEntries host time message trace)
        (record.shownFields showsFields)) = .ok json ∧
      Json.readingEntries json = (withFields (record.ownEntries host time message trace)
        (record.shownFields showsFields)).map fun entry => (entry.1.points, entry.2.shown) := by
  obtain ⟨left, enters, inner⟩ := Json.exists_inside fits.logger.1
  have own : ∀ entry ∈ record.ownEntries host time message trace, entry.2.IsWritten left := by
    have level := Entry.isWritten_of_fits (inner _ fits.level.1) genuine.level
    have logger := Entry.isWritten_of_fits (inner _ fits.logger.1) genuine.logger
    cases trace <;>
      simp [ownEntries, Entry.isWritten_text, Entry.isWritten_row, level, logger]
  have written : ∀ entry ∈ withFields (record.ownEntries host time message trace)
      (record.shownFields showsFields), entry.2.IsWritten left := by
    rintro ⟨name, entry⟩ mem
    rcases (mem_withFields_iff (record.nodup_ownEntries host time message trace)
      (genuine.nodup_shownFields showsFields)).1 mem with ⟨field, shown, rfl⟩ | ⟨-, mem⟩
    · cases field with
      | row points => exact Entry.isWritten_row left points
      | value v => exact isWritten_presentable (inner _ (fits.fields _ shown).1)
    · exact own _ mem
  obtain ⟨json, formed, read⟩ := Log.exists_jsonOfEntries written
  exact ⟨left, json, enters, formed, read⟩

/-- The line of a record, and what is read back from it: each field that is shown, and each entry
of the record's own whose name no such field has. -/
theorem exists_lineWithin (genuine : record.IsGenuine) (filled : record.text = .ok message)
    (timed : record.moment.text = .ok time) (traced : record.trace? = .ok trace) (host : Text)
    (fits : record.FitsIn room showsFields) :
    ∃ line reading, record.jsonLineWithin room host showsFields = .ok line ∧ line.IsPrintable ∧
      Json.read? line = some reading ∧
      (∀ field ∈ record.shownFields showsFields, reading.field? field.1 = some field.2.shown) ∧
      ∀ entry ∈ record.ownEntries host time message trace,
        entry.1 ∉ (record.shownFields showsFields).map (·.1) →
          reading.field? entry.1 = some entry.2.shown := by
  have owned := record.nodup_ownEntries host time message trace
  have shown := fun (name : Text) (entry : Entry) =>
    @mem_withFields_iff name entry _ _ owned (genuine.nodup_shownFields showsFields)
  have once : ((withFields (record.ownEntries host time message trace)
      (record.shownFields showsFields)).map (·.1)).Nodup := nodup_withFields owned
  have entries := entriesWithin_eq_ok filled timed traced host fits.fields
  obtain ⟨left, json, enters, formed, read⟩ :=
    genuine.exists_jsonOfEntries fits host time message trace
  generalize withFields (record.ownEntries host time message trace)
    (record.shownFields showsFields) = all at shown once entries formed read
  -- Names stand once each among what is shown, so that what is found under one is its entry.
  have named : ((all.map fun entry => (entry.1.points, entry.2.shown)).map (·.1)).Nodup := by
    simpa [Function.comp_def] using once.map Points.points_injective
  have found {name : Text} {entry : Entry} (mem : (name, entry) ∈ all) :
      (Json.object json).reading.field? name = some entry.shown := by
    rw [Json.reading, read, Reading.field?_eq_some_iff named]
    exact List.mem_map.2 ⟨_, mem, rfl⟩
  refine ⟨(Json.object json).render, (Json.object json).reading,
    jsonLineWithin_eq_ok entries enters formed, Json.isPrintable_render _, Json.read?_render _,
    ?_, ?_⟩
  · intro field mem
    rw [← shown_presentable]
    exact found ((shown _ _).2 (.inl ⟨field.2, mem, rfl⟩))
  · intro entry own free
    exact found ((shown _ _).2 (.inr ⟨free, own⟩))

end IsGenuine
end Record
end Log
end SyncedFile
