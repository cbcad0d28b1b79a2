import SyncedFile.Log.Outlets
import SyncedFile.Proofs.FileTree.Appending
import SyncedFile.Proofs.Log.Shown

/-!
# What the log file gets

The file that outlets were configured with gets one line for each event at or above the threshold,
in the order of the events, after what it held when it was opened. The line is the JSON form of the
record as the console leaves it. A console in the JSON form leaves it as it is; one in the plain
form puts the text of the moment among the fields, so that the line shows the moment twice.

* `Telling` — an event with its logger and its moment; `Outlets.tell` — writing several of them;
* `Outlets.fileText` — what the file gets of a telling;
* `Outlets.read?_tell` — what the file holds after a run;
* `Outlets.logFile_eq_iff` — when both forms of the console leave the same file.
-/

namespace SyncedFile

namespace Json

variable {left right : List (Text × Json)}

theorem renderEntries_append (left right : List (Text × Json)) :
    renderEntries (left ++ right) = renderEntries left ++ renderEntries right := by
  induction left with
  | nil => rfl
  | cons entry left ih =>
    rw [List.cons_append, renderEntries, renderEntries, ih]
    rfl

theorem render_object_concat (nonempty : left ≠ []) (entry : Text × Json) :
    render (object (left ++ [entry])) =
      (render (object left)).dropLast ++ ", " ++ string entry.1 ++ ": " ++ render entry.2
        ++ "\x7d" := by
  have some : renderEntries left ≠ [] := by
    cases left with
    | nil => exact absurd rfl nonempty
    | cons first left => exact List.cons_ne_nil _ _
  have whole : Text.joinWith ", " (renderEntries (left ++ [entry])) =
      Text.joinWith ", " (renderEntries left) ++ ", " ++
        (string entry.1 ++ ": " ++ render entry.2) := by
    rw [renderEntries_append, renderEntries, renderEntries, Text.joinWith_append_singleton,
      Text.joinWith_append_sep _ some]
  have closing : (render (object left)).dropLast =
      '\x7b' :: Text.joinWith ", " (renderEntries left) := by
    rw [render]
    exact List.dropLast_concat
  rw [closing, render, whole]
  simp [List.append_assoc]

end Json

namespace Log

variable {entries fields first second : List (Text × Entry)} {key name : Text}
  {left right : List (Text × Json)} {limit : Option Nat}

theorem jsonOfEntries_append (written : Record.jsonOfEntries limit first = .ok left)
    (more : Record.jsonOfEntries limit second = .ok right) :
    Record.jsonOfEntries limit (first ++ second) = .ok (left ++ right) := by
  induction first generalizing left with
  | nil =>
    obtain rfl := Except.ok.inj written
    exact more
  | cons entry first ih =>
    rw [List.cons_append, Record.jsonOfEntries]
    rw [Record.jsonOfEntries] at written
    cases formed : entry.2.jsonWithin limit with
    | error fault =>
      rw [formed] at written
      cases written
    | ok json =>
      cases rest : Record.jsonOfEntries limit first with
      | error fault =>
        rw [formed, rest] at written
        cases written
      | ok others =>
        rw [formed, rest] at written
        obtain rfl := Except.ok.inj written
        rw [ih rest]
        rfl

theorem put_of_notMem (absent : key ∉ entries.map (·.1)) (value : Entry) :
    put key value entries = entries ++ [(key, value)] := by
  induction entries with
  | nil => rfl
  | cons entry entries ih =>
    simp only [List.map_cons, List.mem_cons, not_or] at absent
    rw [put, if_neg (Ne.symm absent.1), ih absent.2]
    rfl

theorem withFields_concat (unnamed : key ∉ entries.map (·.1)) (absent : key ∉ fields.map (·.1))
    (t : Text) : withFields entries (fields ++ [(key, .value (.text t))]) =
      withFields entries fields ++ [(key, .value (.text t))] := by
  have free : key ∉ (withFields entries fields).map (·.1) := by
    clear t
    induction fields generalizing entries with
    | nil => exact unnamed
    | cons field fields ih =>
      simp only [List.map_cons, List.mem_cons, not_or] at absent
      refine ih ?_ absent.2
      rw [names_put]
      split
      · exact unnamed
      · simp [unnamed, absent.1]
  rw [withFields, List.foldl_append]
  exact put_of_notMem free _

/-! ## Events -/

/-- An event that is told to the log: under a logger, and at a moment. -/
structure Telling where
  logger : Text
  moment : Moment
  event : Event

/-- A line of JSON that shows the moment once more, at its end. -/
def withStamp (time line : Text) : Text :=
  line.dropLast ++ ", " ++ Json.string (Text.points "asctime") ++ ": " ++ Json.string time ++ "\x7d"

namespace Telling

variable {telling : Telling} {time line : Text}

def record (telling : Telling) : Record :=
  .ofEvent telling.logger telling.moment telling.event

/-- What a file gets of a telling, by the form of the console. A record whose moment cannot be
written leaves no line. -/
def fileText (host : Text) (console : Form) (telling : Telling) : Text :=
  match telling.moment.text, telling.record.jsonLine host true with
  | .ok time, .ok line =>
    match console with
    | .json => line ++ ['\n']
    | .plain => withStamp time line ++ ['\n']
  | _, _ => []

def fieldNames : List (List Text) :=
  [["event", "raw", "url"], ["event", "strategy", "full_path", "limit"],
    ["event", "url", "path", "strategy", "read_only"], ["event", "url", "error_type", "error"], []]

theorem names_mem_fieldNames (event : Event) : event.fields.map (·.1) ∈ fieldNames := by
  cases event with
  | locatorNormalized => exact .head _
  | pathFallback => exact .tail _ (.head _)
  | configurationBuilt => exact .tail _ (.tail _ (.head _))
  | buildFailed => exact .tail _ (.tail _ (.tail _ (.head _)))
  | directoryReady => exact .tail _ (.tail _ (.tail _ (.tail _ (.head _))))

theorem names_record (telling : Telling) :
    telling.record.fields.map (·.1) = telling.event.fields.map (·.1) := by
  rw [record, Record.ofEvent, List.map_map]
  rfl

/-- No field of an event has the name of another one, of what is a record's own, or of the text of
the moment. -/
theorem names_fields (telling : Telling) :
    (telling.record.fields.map (·.1)).Nodup ∧
      ∀ name ∈ telling.record.fields.map (·.1),
        name ∉ Record.ownNames ∧ name ≠ "asctime".toList := by
  have all : ∀ names ∈ fieldNames, names.Nodup ∧
      ∀ name ∈ names, name ∉ Record.ownNames ∧ name ≠ "asctime".toList := by decide
  rw [names_record]
  exact all _ (names_mem_fieldNames telling.event)

theorem asctime_notMem_names (telling : Telling) :
    "asctime".toList ∉ telling.record.fields.map (·.1) :=
  fun mem => ((names_fields telling).2 _ mem).2 rfl

theorem isGenuine_record (timed : telling.moment.text = .ok time) : telling.record.IsGenuine where
  logger := ⟨_, rfl⟩
  level := ⟨_, rfl⟩
  moment := ⟨time, timed⟩
  cause := nofun
  once := (names_fields telling).1
  notOwn name mem := ((names_fields telling).2 name mem).1

theorem text_record (telling : Telling) :
    telling.record.text = .ok (telling.event.message : Points) :=
  Record.text_ofEvent telling.logger telling.moment telling.event

theorem messageText_record (telling : Telling) :
    telling.record.messageText = .ok (telling.event.message : Points) := by
  rw [Record.messageText, text_record]
  rfl

theorem timeText_record (telling : Telling) :
    telling.record.timeText = telling.moment.text.mapError .time := rfl

theorem stamped_record (timed : telling.moment.text = .ok time) :
    telling.record.stamped = { telling.record with
      fields := telling.record.fields ++ [("asctime".toList, .value (.text time))] } := by
  simp only [Record.stamped, messageText_record, timeText_record, timed, Except.mapError,
    ← put_of_notMem (asctime_notMem_names telling)]

/-- What is shown of an event's record when the text of its moment is among the fields. -/
theorem entries_stamped (timed : telling.moment.text = .ok time) (host : Text) :
    telling.record.stamped.entriesWithin {} host true =
      .ok (withFields (telling.record.ownEntries host time telling.event.message none)
        telling.record.fields ++ [("asctime".toList, .value (.text time))]) := by
  have unnamed : "asctime".toList ∉
      (telling.record.ownEntries host time telling.event.message none).map (·.1) := by
    show "asctime".toList ∉ ["timestamp".toList, "level", "logger", "message", "hostname"]
    decide
  have filled : telling.record.stamped.text = .ok (telling.event.message : Points) := by
    rw [stamped_record timed]
    exact telling.text_record
  have sameMoment : telling.record.stamped.moment.text = .ok time := by
    rw [stamped_record timed]
    exact timed
  have traced : telling.record.stamped.trace? = .ok none := by
    rw [stamped_record timed]
    rfl
  rw [Record.entriesWithin_eq_ok filled sameMoment traced host
      fun field _ => Room.holds_unlimited field.2,
    stamped_record timed, ← withFields_concat unnamed (asctime_notMem_names telling)]
  rfl

theorem exists_lines (timed : telling.moment.text = .ok time) (host : Text) :
    ∃ line, telling.record.jsonLine host true = .ok line ∧
      telling.record.stamped.jsonLine host true = .ok (withStamp time line) := by
  have genuine := isGenuine_record timed
  obtain ⟨left, json, enters, written, read⟩ := genuine.exists_jsonOfEntries
    (Record.fitsIn_unlimited true telling.record) host time telling.event.message none
  -- The message is always shown, so that a comma stands before the text of the moment.
  have nonempty : json ≠ [] := by
    have shown := (mem_withFields_iff
      (telling.record.nodup_ownEntries host time telling.event.message none)
      (genuine.nodup_shownFields true)).2 (.inr ⟨genuine.message_notMem_shownFields true,
        telling.record.mem_ownEntries_message host time telling.event.message none⟩)
    rintro rfl
    rw [Json.readingEntries, eq_comm, List.map_eq_nil_iff] at read
    rw [read] at shown
    cases shown
  have stamped : Record.jsonOfEntries left
      (withFields (telling.record.ownEntries host time telling.event.message none)
        telling.record.fields ++ [("asctime".toList, .value (.text time))]) =
      .ok (json ++ [("asctime".toList, .text time)]) :=
    jsonOfEntries_append written rfl
  have shown := Record.entriesWithin_eq_ok telling.text_record timed rfl host
    fun (field : Text × Entry) (_ : field ∈ telling.record.shownFields true) =>
      Room.holds_unlimited field.2
  refine ⟨(Json.object json).render, Record.jsonLineWithin_eq_ok shown enters written, ?_⟩
  rw [Record.jsonLine, Record.jsonLineWithin_eq_ok (entries_stamped timed host) enters stamped,
    Json.render_object_concat nonempty]
  rfl

/-- What a file gets of a telling is the line of its record, as the console leaves that. -/
theorem addLine_jsonLine (host : Text) (console : Form) (telling : Telling) :
    Outlets.addLine [] ((console.write host telling.record).2.jsonLine host true) =
      telling.fileText host console := by
  cases timed : telling.moment.text with
  | error fault =>
    -- Neither form of the console leaves anything on a record whose moment cannot be written.
    have late : telling.record.timeText = .error (.time fault) := by
      rw [timeText_record, timed]
      rfl
    have unwritten : telling.record.jsonLine host true = .error (.time fault) := by
      simp only [Record.jsonLine, Record.jsonLineWithin, Record.jsonWithin, Record.entriesWithin, late]
      rfl
    have same : (console.write host telling.record).2 = telling.record := by
      cases console with
      | json => rfl
      | plain => simp only [Form.write, Record.stamped, messageText_record, late]
    rw [same, unwritten, fileText, timed]
    rfl
  | ok time =>
    obtain ⟨line, plain, stamped⟩ := exists_lines timed host
    rw [fileText, timed, plain]
    cases console with
    | json =>
      show Outlets.addLine [] (telling.record.jsonLine host true) = _
      rw [plain]
      rfl
    | plain =>
      show Outlets.addLine [] (telling.record.stamped.jsonLine host true) = _
      rw [stamped]
      rfl

end Telling

namespace Outlets

variable {outlets : Outlets} {written : Written} {path before : Text} {tree opened : FileTree}
  {working level : Text} {file : Option Text}

/-- Writes the records of tellings one after the other. -/
def tell (outlets : Outlets) (written : Written) (tellings : List Telling) : Written :=
  tellings.foldl (fun written telling =>
    outlets.write written telling.event.level.number telling.record) written

/-- What the file gets of a telling: nothing where its event is below the threshold. -/
def fileText (outlets : Outlets) (telling : Telling) : Text :=
  if telling.event.level.number < outlets.threshold then []
  else telling.fileText outlets.host outlets.console

theorem read?_write (named : outlets.file = some path)
    (holds : written.tree.read? path = some before) (telling : Telling) :
    (outlets.write written telling.event.level.number telling.record).tree.read? path =
      some (before ++ outlets.fileText telling) := by
  rw [fileText, write]
  split
  · rw [List.append_nil]
    exact holds
  · obtain ⟨after, appended, reads⟩ := FileTree.read?_append holds
      (telling.fileText outlets.host outlets.console)
    rw [← Telling.addLine_jsonLine] at appended
    simp only [named, appended]
    exact reads

theorem read?_tell (named : outlets.file = some path)
    (holds : written.tree.read? path = some before) (tellings : List Telling) :
    (outlets.tell written tellings).tree.read? path =
      some (before ++ tellings.flatMap outlets.fileText) := by
  induction tellings generalizing written before with
  | nil =>
    rw [List.flatMap_nil, List.append_nil]
    exact holds
  | cons telling tellings ih =>
    rw [List.flatMap_cons, ← List.append_assoc]
    exact ih (read?_write named holds telling)

/-! ## Both forms of the console -/

def withConsole (outlets : Outlets) (console : Form) : Outlets :=
  { outlets with console := console }

theorem exists_of_configure {form : Form}
    (configured : configure tree working level form file = .ok (outlets, opened)) :
    ∃ threshold name, levelNumber? level = some threshold ∧
      openFile tree working file = .ok (name, opened) ∧
      outlets = { threshold := threshold, console := form, file := name } := by
  rw [configure] at configured
  split at configured
  · cases configured
  · next threshold known =>
    cases opens : openFile tree working file with
    | error misuse =>
      rw [opens] at configured
      cases configured
    | ok result =>
      rw [opens] at configured
      cases configured
      exact ⟨threshold, result.1, known, rfl, rfl⟩

theorem configure_withConsole {form : Form}
    (configured : configure tree working level form file = .ok (outlets, opened)) (console : Form) :
    configure tree working level console file = .ok (outlets.withConsole console, opened) := by
  obtain ⟨threshold, name, known, opens, rfl⟩ := exists_of_configure configured
  simp only [configure, known, opens]
  rfl

theorem exists_read?_of_openFile {name : Option Text}
    (opens : openFile tree working file = .ok (name, opened)) (named : name = some path) :
    ∃ before, opened.read? path = some before := by
  subst named
  rw [openFile.eq_def] at opens
  split at opens
  · cases opens
  · cases opens
  · simp only at opens
    split at opens
    · cases opens
    · split at opens
      · next appended =>
        cases opens
        exact FileTree.exists_read?_of_append appended
      · cases opens

theorem length_withStamp (time line : Text) : line.length < (withStamp time line).length := by
  have brace : 1 ≤ ("\x7d".toList).length := by decide
  have comma : 2 ≤ (", ".toList).length := by decide
  simp only [withStamp, List.length_append, List.length_dropLast]
  omega

/-- What the file gets of a telling is no shorter with a plain console, and it is as long only where
nothing is written: below the threshold, or where the moment cannot be written. -/
theorem fileText_plain_cases (plain : outlets.console = .plain) (telling : Telling) :
    (outlets.fileText telling = (outlets.withConsole .json).fileText telling ∧
      (outlets.threshold ≤ telling.event.level.number →
        ∃ fault, telling.moment.text = .error fault)) ∨
    (((outlets.withConsole .json).fileText telling).length <
        (outlets.fileText telling).length ∧
      outlets.threshold ≤ telling.event.level.number ∧
        ∀ fault, telling.moment.text ≠ .error fault) := by
  have asJson : (outlets.withConsole .json).fileText telling =
      if telling.event.level.number < outlets.threshold then []
      else telling.fileText outlets.host .json := rfl
  rw [asJson, fileText, plain]
  split
  · next below => exact .inl ⟨rfl, fun above => absurd below (Int.not_lt.2 above)⟩
  · next above =>
    rw [Telling.fileText, Telling.fileText]
    cases timed : telling.moment.text with
    | error fault => exact .inl ⟨rfl, fun _ => ⟨fault, rfl⟩⟩
    | ok time =>
      obtain ⟨line, written, -⟩ := Telling.exists_lines timed outlets.host
      refine .inr ⟨?_, Int.not_lt.1 above, nofun⟩
      have longer := length_withStamp time line
      simp only [written, List.length_append]
      omega

end Outlets

/-- Texts put together of parts, each no shorter than its counterpart and equal to it if it is as
long, are equal only if all their parts are. -/
theorem flatMap_eq_flatMap_iff {α : Type} {f g : α → Text}
    (cases : ∀ a, f a = g a ∨ (g a).length < (f a).length) (parts : List α) :
    parts.flatMap f = parts.flatMap g ↔ ∀ a ∈ parts, f a = g a := by
  -- Were one part longer, no other part could be shorter to make up for it.
  have le (parts : List α) : (parts.flatMap g).length ≤ (parts.flatMap f).length := by
    induction parts with
    | nil => exact Nat.le_refl _
    | cons a parts ih =>
      rw [List.flatMap_cons, List.flatMap_cons, List.length_append, List.length_append]
      rcases cases a with same | shorter
      · rw [same]
        omega
      · omega
  induction parts with
  | nil => simp
  | cons a parts ih =>
    rw [List.flatMap_cons, List.flatMap_cons, List.forall_mem_cons]
    constructor
    · intro same
      rcases cases a with equal | shorter
      · rw [equal] at same
        exact ⟨equal, ih.1 (List.append_cancel_left same)⟩
      · have lengths := congrArg List.length same
        have others := le parts
        rw [List.length_append, List.length_append] at lengths
        omega
    · rintro ⟨first, others⟩
      rw [first, ih.2 others]

namespace Outlets

variable {outlets : Outlets} {path : Text} {tree opened : FileTree} {working level : Text}
  {file : Option Text}

def builtTelling : Telling where
  logger := "realm_sync_config"
  moment := .ofNumbers 1700000000 250
  event := .configurationBuilt (.text "u") (.text "p") (.text "full") (.bool false)

/-- With a plain console and with one in the JSON form the file gets the lines of the same tellings
after the same text, but in the first case each line shows the moment once more. So both leave the
same file exactly if none of the tellings that reach the threshold can be written. -/
theorem logFile_eq_iff
    (configured : configure tree working level .plain file = .ok (outlets, opened))
    (named : outlets.file = some path) (tellings : List Telling) :
    configure tree working level .json file = .ok (outlets.withConsole .json, opened) ∧
      ∃ before afterPlain afterJson,
        (outlets.tell { tree := opened } tellings).tree.read? path = some afterPlain ∧
        ((outlets.withConsole .json).tell { tree := opened } tellings).tree.read? path =
          some afterJson ∧
        afterPlain = before ++ tellings.flatMap outlets.fileText ∧
        afterJson = before ++ tellings.flatMap (outlets.withConsole .json).fileText ∧
        (afterPlain = afterJson ↔ ∀ telling ∈ tellings,
          outlets.threshold ≤ telling.event.level.number →
            ∃ fault, telling.moment.text = .error fault) := by
  refine ⟨configure_withConsole configured .json, ?_⟩
  obtain ⟨threshold, name, -, opens, same⟩ := exists_of_configure configured
  have plain : outlets.console = .plain := by rw [same]
  obtain ⟨before, holds⟩ := exists_read?_of_openFile opens (by rw [← named, same])
  have namedJson : (outlets.withConsole .json).file = some path := named
  refine ⟨before, _, _, read?_tell named holds tellings, read?_tell namedJson holds tellings,
    rfl, rfl, ?_⟩
  have cases := fileText_plain_cases plain
  rw [List.append_cancel_left_eq, flatMap_eq_flatMap_iff fun telling =>
    (cases telling).imp And.left And.left]
  refine forall₂_congr fun telling _ => ?_
  rcases cases telling with ⟨equal, unwritten⟩ | ⟨longer, reached, written⟩
  · exact ⟨fun _ => unwritten, fun _ => equal⟩
  · constructor
    · intro equal
      rw [equal] at longer
      exact absurd longer (Nat.lt_irrefl _)
    · intro unwritten
      obtain ⟨fault, refused⟩ := unwritten reached
      exact absurd refused (written fault)

/-- One event that is told at a moment that can be written already makes the files differ. -/
theorem logFile_ne_after_one_event : ∃ outlets opened before afterPlain afterJson,
    configure {} "/" "INFO" .plain (some "c.log") = .ok (outlets, opened) ∧
      outlets.file = some "/c.log" ∧
      configure {} "/" "INFO" .json (some "c.log") = .ok (outlets.withConsole .json, opened) ∧
      (outlets.tell { tree := opened } [builtTelling]).tree.read? "/c.log" = some afterPlain ∧
      ((outlets.withConsole .json).tell { tree := opened } [builtTelling]).tree.read? "/c.log" =
        some afterJson ∧
      afterPlain = before ++ outlets.fileText builtTelling ∧
      afterJson = before ++ (outlets.withConsole .json).fileText builtTelling ∧
      afterPlain ≠ afterJson := by
  have configured : configure {} "/" "INFO" .plain (some "c.log".toList) =
      .ok ({ threshold := 20, console := .plain, file := some "/c.log" },
        FileTree.insert {} ["c.log"] (.file [])) := rfl
  obtain ⟨asJson, before, afterPlain, afterJson, inPlain, inJson, one, two, same⟩ :=
    logFile_eq_iff configured rfl [builtTelling]
  rw [List.flatMap_singleton] at one two
  refine ⟨_, _, before, afterPlain, afterJson, configured, rfl, asJson, inPlain, inJson, one, two, ?_⟩
  intro equal
  obtain ⟨fault, refused⟩ := same.1 equal builtTelling (List.mem_singleton_self _) (by decide)
  obtain ⟨time, timed⟩ := @Moment.exists_text builtTelling.moment 1700000000 250 rfl (by decide) rfl
  rw [timed] at refused
  cases refused

end Outlets
end Log
end SyncedFile
