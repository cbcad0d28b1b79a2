import SyncedFile.Failure.Misuse
import SyncedFile.Value.Literal

/-!
# Reports of failures

What a failure says: its kind, a message, and a context of named values. On one line the context
follows the message in brackets, every value as its literal.

Each kind of report is made from the values that belong to it, given by position or by name; those
that may be left out have a default (`FailureKind.parameters`, `Report.ofArguments`).
-/

namespace SyncedFile

/-- The kinds of failures. -/
inductive FailureKind where
  | general
  | malformedLocator
  | invalidSegment
  | invalidCharacter
  | reservedSuffix
  | missingIdentity
  | missingRequiredField
  | incompatibleOption
  | pathTooLong
  | fileNameTooLong
  | directoryCreation
  | invalidIdentityOwner
  | validation
  | builderConsumed
  deriving DecidableEq

namespace FailureKind

def name : FailureKind → Text
  | general => "SyncConfigError"
  | malformedLocator => "MalformedLocatorError"
  | invalidSegment => "InvalidSegmentError"
  | invalidCharacter => "InvalidCharacterError"
  | reservedSuffix => "ReservedSuffixError"
  | missingIdentity => "MissingIdentityError"
  | missingRequiredField => "MissingRequiredFieldError"
  | incompatibleOption => "IncompatibleOptionError"
  | pathTooLong => "PathTooLongError"
  | fileNameTooLong => "FileNameTooLongError"
  | directoryCreation => "DirectoryCreationError"
  | invalidIdentityOwner => "InvalidIdentityOwnerError"
  | validation => "ValidationError"
  | builderConsumed => "BuilderConsumedError"

/-- The values that a report of a kind is made from, with the defaults of those that may be left
out. -/
def parameters : FailureKind → List (Text × Option Value)
  | general => [("message", none), ("context", some .null)]
  | malformedLocator => [("raw", none), ("reason", some .null)]
  | invalidSegment | invalidCharacter => [("segment", none), ("raw", none)]
  | reservedSuffix => [("file_name", none), ("suffix", none)]
  | missingIdentity => [("url", none), ("message", some .null)]
  | missingRequiredField => [("field", none)]
  | incompatibleOption => [("message", none), ("option", none), ("conflicts_with", none)]
  | pathTooLong => [("full_path", none), ("limit", none)]
  | fileNameTooLong => [("file_name", none), ("limit", none)]
  | directoryCreation => [("directory", none), ("reason", some .null)]
  | invalidIdentityOwner =>
    [("message", some (.text "Owner not authenticated or authentication expired."))]
  | validation => [("message", none), ("field", some .null), ("value", some .null)]
  | builderConsumed => []

end FailureKind

/-- What a failure says. -/
structure Report where
  kind : FailureKind
  message : Value
  /-- Named values that the line of the report shows after the message. -/
  context : List (Value × Value) := []
  /-- The values that the report was made from, by name. -/
  attributes : List (Text × Value) := []

namespace Report

def entry (name : Text) (value : Value) : Value × Value :=
  (.text name, value)

/-- A named value of the context that is left out when it is null. -/
def optional (name : Text) (value : Value) : List (Value × Value) :=
  if value.isNull then [] else [entry name value]

def contextText (context : List (Value × Value)) : Text :=
  Text.joinWith ", " (context.map fun e => e.1.plain ++ '=' :: e.2.literal)

def line (report : Report) : Text :=
  match report.context with
  | [] => report.message.plain
  | context => report.message.plain ++ " [" ++ contextText context ++ "]"

/-- The report on one line; without a context the message has to be a text. -/
def line? (report : Report) : Except Misuse Text :=
  match report.context, report.message with
  | [], .text message => .ok message
  | [], message => .error (.messageNotText message.typeName)
  | _, _ => .ok report.line

/-! ## Reports of each kind -/

def general (message context : Value) : Report where
  kind := .general
  message := message
  context :=
    match context with
    | .dict entries => entries
    | _ => []

def malformedLocator (raw reason : Value) : Report where
  kind := .malformedLocator
  message := .text ("Invalid URI: " ++ raw.literal)
  context := entry "raw" raw :: optional "reason" reason
  attributes := [("raw", raw), ("reason", reason)]

def invalidSegment (segment raw : Value) : Report where
  kind := .invalidSegment
  message := .text ("The URI has an invalid segment: " ++ segment.plain)
  context := [entry "segment" segment, entry "raw" raw]
  attributes := [("segment", segment), ("raw", raw)]

def invalidCharacter (segment raw : Value) : Report where
  kind := .invalidCharacter
  message := .text
    ("The URI must only contain characters 0-9, a-z, A-Z, ., _, and -: " ++ segment.literal)
  context := [entry "segment" segment, entry "raw" raw]
  attributes := [("segment", segment), ("raw", raw)]

def reservedSuffix (fileName suffix : Value) : Report where
  kind := .reservedSuffix
  message := .text ("The URI must not end with a reserved storage suffix: " ++ fileName.plain)
  context := [entry "file_name" fileName, entry "suffix" suffix]
  attributes := [("file_name", fileName), ("suffix", suffix)]

/-- An identity is needed where there is none; a message of one's own may replace the usual one. -/
def missingIdentity (url message : Value) : Report where
  kind := .missingIdentity
  message :=
    if message.isTruthy then message
    else .text "The URL contains a placeholder segment, but the owner does not have an identity."
  context := [entry "url" url]
  attributes := [("url", url)]

def missingRequiredField (field : Value) : Report where
  kind := .missingRequiredField
  message := .text ('\'' :: field.plain ++ "' is required")
  context := [entry "field" field]
  attributes := [("field", field)]

def incompatibleOption (message option conflictsWith : Value) : Report where
  kind := .incompatibleOption
  message := message
  context := [entry "option" option, entry "conflicts_with" conflictsWith]
  attributes := [("option", option), ("conflicts_with", conflictsWith)]

def lengthValue (t : Text) : Value :=
  .int (Text.byteLength t)

def pathTooLong (fullPath : Text) (limit : Value) : Report where
  kind := .pathTooLong
  message := .text ("Full path name must not exceed " ++ limit.plain ++ " bytes: " ++ fullPath)
  context := [entry "full_path" (.text fullPath), entry "limit" limit,
    entry "length" (lengthValue fullPath)]
  attributes := [("full_path", .text fullPath), ("limit", limit), ("length", lengthValue fullPath)]

def fileNameTooLong (fileName : Text) (limit : Value) : Report where
  kind := .fileNameTooLong
  message := .text ("File name exceeds " ++ limit.plain ++ " bytes: "
    ++ (lengthValue fileName).plain)
  context := [entry "file_name" (.text fileName), entry "limit" limit,
    entry "length" (lengthValue fileName)]
  attributes := [("file_name", .text fileName), ("limit", limit), ("length", lengthValue fileName)]

def directoryCreation (directory reason : Value) : Report where
  kind := .directoryCreation
  message := .text ("Could not create directory for saving the file: " ++ directory.plain)
  context := entry "directory" directory :: optional "reason" reason
  attributes := [("directory", directory), ("reason", reason)]

def invalidIdentityOwner (message : Value) : Report where
  kind := .invalidIdentityOwner
  message := message

/-- An argument that is refused. The context shows the beginning of the value's literal. -/
def validation (message field value : Value) : Report where
  kind := .validation
  message := message
  context := optional "field" field
    ++ if value.isNull then [] else [entry "value" (.text value.excerpt)]
  attributes := [("field", field), ("value", value)]

def builderConsumed : Report where
  kind := .builderConsumed
  message := .text "This builder has already been consumed by build(); create a new builder."

def measured : Value → Except Misuse Text
  | .text t => .ok t
  | value => .error (.lacks value.typeName "encode")

/-- A context of one's own: a dictionary, or anything falsy for none. -/
def contextOf : Value → Except Misuse Value
  | .dict entries => .ok (.dict entries)
  | value => if value.isTruthy then .error (.lacks value.typeName "items") else .ok .null

/-- The report of a kind made from its values, which are looked up by the names of its
parameters. -/
def ofValues (kind : FailureKind) (value : Text → Value) : Except Misuse Report :=
  match kind with
  | .general => (contextOf (value "context")).map (general (value "message"))
  | .malformedLocator => .ok (malformedLocator (value "raw") (value "reason"))
  | .invalidSegment => .ok (invalidSegment (value "segment") (value "raw"))
  | .invalidCharacter => .ok (invalidCharacter (value "segment") (value "raw"))
  | .reservedSuffix => .ok (reservedSuffix (value "file_name") (value "suffix"))
  | .missingIdentity => .ok (missingIdentity (value "url") (value "message"))
  | .missingRequiredField => .ok (missingRequiredField (value "field"))
  | .incompatibleOption =>
    .ok (incompatibleOption (value "message") (value "option") (value "conflicts_with"))
  | .pathTooLong => (measured (value "full_path")).map (pathTooLong · (value "limit"))
  | .fileNameTooLong => (measured (value "file_name")).map (fileNameTooLong · (value "limit"))
  | .directoryCreation => .ok (directoryCreation (value "directory") (value "reason"))
  | .invalidIdentityOwner => .ok (invalidIdentityOwner (value "message"))
  | .validation => .ok (validation (value "message") (value "field") (value "value"))
  | .builderConsumed => .ok builderConsumed

/-- The value of a parameter: given by position, else by name, else the default. -/
def argument (kind : FailureKind) (positional : List Value) (named : List (Text × Value))
    (name : Text) : Value :=
  match kind.parameters.zipIdx.find? (·.1.1 = name) with
  | none => .null
  | some ((_, default), i) =>
    (positional[i]?.or ((named.find? (·.1 = name)).map (·.2))).getD (default.getD .null)

def ofArguments (kind : FailureKind) (positional : List Value) (named : List (Text × Value)) :
    Except Misuse Report :=
  ofValues kind (argument kind positional named)

end Report
end SyncedFile
