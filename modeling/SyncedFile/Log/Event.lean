import SyncedFile.Value.Literal

/-!
# Events

What is worth telling while a configuration is resolved and built. An event has a level, the part of
the library it comes from, a message, and fields that go with it.
-/

namespace SyncedFile.Log

/-- The levels that events have. -/
inductive Level where
  | debug
  | info
  | warning
  deriving DecidableEq

namespace Level

/-- The number of a level; more is more urgent. -/
def number : Level → Int
  | debug => 10
  | info => 20
  | warning => 30

def name : Level → Text
  | debug => "DEBUG"
  | info => "INFO"
  | warning => "WARNING"

end Level

/-- An event. The values are shown as they were handed in. -/
inductive Event where
  | locatorNormalized (raw url : Value)
  | pathFallback (strategy fullPath limit : Value)
  | configurationBuilt (url path strategy readOnly : Value)
  | buildFailed (url : Value) (kind : Text) (line : Text)
  | directoryReady (path : Value)

namespace Event

def level : Event → Level
  | locatorNormalized .. => .debug
  | pathFallback .. => .info
  | configurationBuilt .. => .info
  | buildFailed .. => .warning
  | directoryReady .. => .debug

/-- The logger of the part of the library that an event comes from. -/
def source : Event → Text
  | locatorNormalized .. => "realm_sync_config.locator"
  | pathFallback .. => "realm_sync_config.paths"
  | configurationBuilt .. => "realm_sync_config.builder"
  | buildFailed .. => "realm_sync_config.builder"
  | directoryReady .. => "realm_sync_config.collaborators"

def message : Event → Text
  | locatorNormalized raw url => "Normalized " ++ raw.literal ++ " to " ++ url.plain
  | pathFallback strategy _ limit =>
    "Path exceeds " ++ limit.plain ++ " bytes, falling back to " ++ strategy.plain
  | configurationBuilt url .. => "Configuration built for " ++ url.plain
  | buildFailed _ _ line => "Configuration build failed: " ++ line
  | directoryReady path => "Directory ready: " ++ path.plain

def name : Event → Text
  | locatorNormalized .. => "locator_normalized"
  | pathFallback .. => "path_fallback"
  | configurationBuilt .. => "configuration_built"
  | buildFailed .. => "build_failed"
  | directoryReady .. => "directory_ready"

def fields (event : Event) : List (Text × Value) :=
  let named := ("event".toList, Value.text event.name)
  match event with
  | locatorNormalized raw url => [named, ("raw", raw), ("url", url)]
  | pathFallback strategy fullPath limit =>
    [named, ("strategy", strategy), ("full_path", fullPath), ("limit", limit)]
  | configurationBuilt url path strategy readOnly =>
    [named, ("url", url), ("path", path), ("strategy", strategy), ("read_only", readOnly)]
  | buildFailed url kind line =>
    [named, ("url", url), ("error_type", .text kind), ("error", .text line)]
  | directoryReady _ => []

end Event
end SyncedFile.Log
