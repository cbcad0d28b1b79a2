import SyncedFile.Failure.Report
import SyncedFile.FileTree.Directories
import SyncedFile.Uri.Fault

/-!
# Failures

Everything that can go wrong with a locator, an identity, a local path, a key or a builder, as the
cause of it. What a failure says is its report.
-/

namespace SyncedFile

/-- Why a raw identifier is no locator. -/
inductive Malformation where
  | notText
  | forbiddenCharacter
  | unreadable (fault : Uri.Fault)
  /-- A scheme is followed by neither an authority nor an absolute path. -/
  | withoutAuthority
  | withoutPath
  deriving DecidableEq

def Malformation.reason : Malformation → Text
  | notText => "a non-empty string is required"
  | forbiddenCharacter => "contains characters not allowed in a URI"
  | unreadable fault => fault.reason
  | withoutAuthority => "opaque URI"
  | withoutPath => "the URI has no path"

/-- What an identity was needed for. -/
inductive IdentityUse where
  /-- To stand in for a placeholder segment. -/
  | placeholder
  /-- To name the local directory. -/
  | directory
  /-- To build a configuration whose locator has a placeholder. -/
  | building
  deriving DecidableEq

def IdentityUse.message : IdentityUse → Text
  | placeholder =>
    "The URL contains a placeholder segment, but the owner does not have an identity."
  | directory => "A concrete identity is required to derive the local directory."
  | building =>
    "The URL contains a '/~/', but the owner does not have an identity. "
      ++ "Most likely it hasn't been authenticated yet or has been created "
      ++ "directly from an access token. Use a path without '/~/'."

/-- The fields that cannot be left out. -/
inductive RequiredField where
  | url
  | owner
  | authOrigin
  deriving DecidableEq

def RequiredField.name : RequiredField → Text
  | url => "url"
  | owner => "owner"
  | authOrigin => "auth_origin"

/-- What a read-only file does not go with. -/
inductive ReadOnlyConflict where
  | initialData
  | noRemoteData
  deriving DecidableEq

namespace ReadOnlyConflict

def message : ReadOnlyConflict → Text
  | initialData => "This file is marked as read-only. Read-only files cannot use initial_data()."
  | noRemoteData =>
    "A read-only file must be provided by some source. "
      ++ "'wait_for_initial_remote_data()' wasn't enabled, "
      ++ "which is currently the only supported source."

def option : ReadOnlyConflict → Text
  | initialData => "initial_data"
  | noRemoteData => "wait_for_initial_remote_data"

end ReadOnlyConflict

/-- Why an argument is refused. -/
inductive ArgumentFault where
  | unreadableOrigin (fault : Text) (url : Value)
  | incompleteOrigin (url : Value)
  | identity (identity : Value)
  | emptyFileName
  | nullDirectory
  | nullKey
  | keyNotOctets (typeName : Text)
  | keyLength (length : Nat)
  | schemaVersion (version : Value)
  | nullModule
  | unhashableModule (module : Value)
  | initialDataNotCallable
  | errorHandlerNotCallable
  | emptyPassword
  | emptySalt

namespace ArgumentFault

def message : ArgumentFault → Text
  | unreadableOrigin fault _ => "Invalid authentication URL: " ++ fault
  | incompleteOrigin _ => "Authentication URL needs a scheme and a host"
  | identity _ => "Identity must be a single path segment of 0-9, a-z, A-Z, ., _ and -"
  | emptyFileName => "A non-empty filename must be provided"
  | nullDirectory => "Non-null 'directory' required."
  | nullKey => "A non-null key must be provided"
  | keyNotOctets typeName => "The key must be bytes, got " ++ typeName
  | keyLength length => "The provided key must be 64 bytes. Yours was: " ++ Text.ofNat length
  | schemaVersion version =>
    "Schema version numbers must be 0 (zero) or higher. Yours was: " ++ version.plain
  | nullModule => "A non-null module must be provided"
  | unhashableModule m => m.typeName ++ " cannot be used as a schema module"
  | initialDataNotCallable => "Initial data action must be callable"
  | errorHandlerNotCallable => "Non-null, callable 'error_handler' required."
  | emptyPassword => "A non-empty password must be provided"
  | emptySalt => "A non-empty salt must be provided"

def field : ArgumentFault → Text
  | unreadableOrigin _ _ | incompleteOrigin _ => "auth_url"
  | identity _ => "identity"
  | emptyFileName => "file_name"
  | nullDirectory => "directory"
  | nullKey | keyNotOctets _ | keyLength _ => "encryption_key"
  | schemaVersion _ => "schema_version"
  | nullModule | unhashableModule _ => "modules"
  | initialDataNotCallable => "initial_data"
  | errorHandlerNotCallable => "error_handler"
  | emptyPassword => "password"
  | emptySalt => "salt"

/-- The refused value, where the report shows it. Keys and passwords are not shown. -/
def value : ArgumentFault → Value
  | unreadableOrigin _ url | incompleteOrigin url => url
  | identity who => who
  | schemaVersion version => version
  | unhashableModule m => m
  | _ => .null

end ArgumentFault

/-- A failure by its cause. -/
inductive Failure where
  | malformed (raw : Value) (why : Malformation)
  | relativeSegment (segment : Text) (raw : Value)
  | illegalSegment (segment : Text) (raw : Value)
  | reservedSuffix (fileName suffix : Text)
  | missingIdentity (url : Text) (use : IdentityUse)
  | missingField (field : RequiredField)
  | readOnlyConflict (conflict : ReadOnlyConflict)
  | pathTooLong (fullPath : Text) (limit : Int)
  | fileNameTooLong (fileName : Text) (limit : Int)
  | directoryUnusable (directory : Value) (why : DirectoryFault)
  | ownerNotAuthenticated
  | notAnOwner (typeName : Text)
  | invalidArgument (fault : ArgumentFault)
  | builderConsumed

namespace Failure

def report : Failure → Report
  | malformed raw why => .malformedLocator raw (.text why.reason)
  | relativeSegment segment raw => .invalidSegment (.text segment) raw
  | illegalSegment segment raw => .invalidCharacter (.text segment) raw
  | reservedSuffix fileName suffix => .reservedSuffix (.text fileName) (.text suffix)
  | missingIdentity url use => .missingIdentity (.text url) (.text use.message)
  | missingField field => .missingRequiredField (.text field.name)
  | readOnlyConflict conflict =>
    .incompatibleOption (.text conflict.message) (.text "read_only") (.text conflict.option)
  | pathTooLong fullPath limit => .pathTooLong fullPath (.int limit)
  | fileNameTooLong fileName limit => .fileNameTooLong fileName (.int limit)
  | directoryUnusable directory why => .directoryCreation directory (.text why.reason)
  | ownerNotAuthenticated =>
    .invalidIdentityOwner (.text "Owner not authenticated or authentication expired.")
  | notAnOwner typeName =>
    .invalidIdentityOwner (.text (typeName ++ " does not expose 'is_authenticated'."))
  | invalidArgument fault => .validation (.text fault.message) (.text fault.field) fault.value
  | builderConsumed => .builderConsumed

def kind (failure : Failure) : FailureKind :=
  failure.report.kind

/-- A failure on one line: its message and, in brackets, its context. -/
def line (failure : Failure) : Text :=
  failure.report.line

end Failure

/-- What an operation may end in other than its result. -/
inductive Fault where
  | failure (failure : Failure)
  | misuse (misuse : Misuse)

instance : Coe Failure Fault := ⟨.failure⟩
instance : Coe Misuse Fault := ⟨.misuse⟩

namespace Fault

variable {α : Type} {result : Except Failure α}

theorem mapError_failure_eq_ok {a : α} : result.mapError failure = .ok a ↔ result = .ok a := by
  cases result with
  | error cause => exact iff_of_false (fun given => by cases given) fun given => by cases given
  | ok b =>
    constructor
    · rintro ⟨⟩
      rfl
    · rintro ⟨⟩
      rfl

theorem mapError_failure_eq_error {cause : Failure} :
    result.mapError failure = .error (.failure cause) ↔ result = .error cause := by
  cases result with
  | error cause =>
    constructor
    · rintro ⟨⟩
      rfl
    · rintro ⟨⟩
      rfl
  | ok b => exact iff_of_false (fun given => by cases given) fun given => by cases given

end Fault

end SyncedFile
