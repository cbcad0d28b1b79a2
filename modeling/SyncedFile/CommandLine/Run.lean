import SyncedFile.Builder.Basic
import SyncedFile.CommandLine.Request
import SyncedFile.CommandLine.Table
import SyncedFile.Json.OfValue
import SyncedFile.Log.Outlets

/-!
# Runs of the command line

What a run of the command line writes and how it ends. `resolve` builds the configuration for a
remote address and shows it; `keygen` shows a key.

* `Environment`, `Outcome` — what a run depends on, and what it leaves;
* `resolve`, `keygen` — the two commands;
* `run` — a run with its arguments.
-/

namespace SyncedFile.CommandLine

/-- What a run depends on besides its arguments and the file tree. -/
structure Environment where
  /-- The platform's directory for data. -/
  dataDirectory : Text
  moment : Log.Moment
  /-- A source of random octets. -/
  random : Nat → List UInt8
  /-- The width of the terminal in cells. -/
  terminal : Nat := 80
  /-- Makes a directory ready. -/
  ensureDirectory : Text → Run Unit := fun path => SyncedFile.ensureDirectory (.text path)

/-- What a run leaves. -/
structure Outcome where
  exitCode : Nat
  out : Text := []
  err : Text := []
  /-- The misuse that broke the run off, if one did. -/
  misuse : Option Misuse := none
  surroundings : Surroundings := {}

namespace Outcome

/-- A run that ends with an error, which is printed on one line. -/
def ofError (environment : Environment) (message : Text) : Outcome where
  exitCode := 1
  out := printed environment.terminal
    (Markup.styled "red" ("Error: " ++ Markup.escape message))

end Outcome

/-! ## Configurations -/

/-- The surroundings that a builder is given: a root directory that is named and not empty takes
the place of the usual one. -/
def ResolveRequest.defaults (request : ResolveRequest) (environment : Environment) : Defaults :=
  let standard :=
    { Defaults.standard environment.dataDirectory with
      ensureDirectory := environment.ensureDirectory }
  match request.root with
  | none | some [] => standard
  | some root => { standard with root := .text root }

/-- The builder of a request. An empty file name counts as none. -/
def ResolveRequest.builder (request : ResolveRequest) (environment : Environment) :
    Run Builder := do
  let identity : Value := match request.identity with
    | some identity => .text identity
    | none => .null
  let origin ← ExceptT.mk (pure (Origin.ofUrl (.text request.authUrl)))
  let builder ← Builder.make (some (.fixed identity (.bool true))) (.text request.url)
    (some origin) (request.defaults environment)
  match request.name with
  | none | some [] => return builder
  | some name => ExceptT.mk (pure (builder.set (.name (.text name))))

def ResolveRequest.configuration (request : ResolveRequest) (environment : Environment) :
    Run Configuration := do
  let builder ← request.builder environment
  let (result, _, s) := builder.build (← get)
  set s
  ExceptT.mk (pure result)

def descriptionTable (c : Configuration) : Table where
  title := "Sync Configuration"
  heading := ("Field", "Value")
  rows := c.describe.map fun entry => (entry.1, Markup.escape entry.2.plain)

def descriptionJson (c : Configuration) : Text :=
  match Json.ofValue (.dict (c.describe.map fun entry => (.text entry.1, entry.2))) with
  | .ok json => json.renderIndented 0 ++ ['\n']
  | .error _ => []

/-- Builds the configuration for an address and shows it. Events go to the second output; a failure
is an error, and a misuse breaks the run off. -/
def resolve (environment : Environment) (request : ResolveRequest) (s : Surroundings) : Outcome :=
  match Log.Outlets.configure s.tree s.working request.logLevel .plain none with
  | .error m => { Outcome.ofError environment m.message with surroundings := s }
  | .ok (outlets, _) =>
    let (result, s) := (request.configuration environment).run s
    let events := s.events.map fun event => (event.source, event)
    let err := (outlets.writeEvents {} environment.moment events).console
    match result with
    | .ok c =>
      { exitCode := 0
        out :=
          if request.json then descriptionJson c
          else (descriptionTable c).print environment.terminal
        err := err
        surroundings := s }
    | .error (.failure failure) =>
      { Outcome.ofError environment failure.line with err := err, surroundings := s }
    | .error (.misuse m) => { exitCode := 1, err := err, misuse := some m, surroundings := s }

/-! ## Keys -/

def KeyRequest.saltBytes? (request : KeyRequest) (environment : Environment) :
    Option (List UInt8) :=
  match request.salt with
  | none | some [] => some (EncryptionKey.drawSalt environment.random)
  | some salt => salt.text?.bind Text.Hex.decode

def keygen (environment : Environment) (request : KeyRequest) : Outcome :=
  match request.password with
  | none =>
    { exitCode := 0
      out := Text.Hex.encode (EncryptionKey.drawKey environment.random) ++ ['\n'] }
  | some password =>
    match request.saltBytes? environment with
    | none => .ofError environment "--salt must be hex"
    | some salt =>
      match EncryptionKey.derive password salt EncryptionKey.iterations with
      | .ok key =>
        { exitCode := 0
          out := "key:  " ++ Text.Hex.encode key.bytes ++ "\nsalt: " ++ Text.Hex.encode salt
            ++ ['\n'] }
      | .error (.failure failure) => .ofError environment failure.line
      | .error (.misuse m) => { exitCode := 1, misuse := some m }

/-! ## Runs -/

def help : Text :=
  "Usage: COMMAND [ARGS]...\n\nCommands:\n"
    ++ "  resolve URL [--identity/-u ID] [--auth-url URL] [--root-dir/-d DIR] [--name/-n NAME]\n"
    ++ "              [--json] [--log-level LEVEL]\n"
    ++ "      Resolve a remote URL to its local path and print the configuration.\n"
    ++ "  keygen [--password/-p PASSWORD] [--salt HEX]\n"
    ++ "      Print a 64-byte encryption key as hex.\n"

def run (environment : Environment) (arguments : List Points) (s : Surroundings) : Outcome :=
  match Request.ofArguments arguments with
  | .error fault =>
    { exitCode := 2, err := "Error: " ++ fault.message ++ ['\n'], surroundings := s }
  | .ok .help => { exitCode := 0, out := help, surroundings := s }
  | .ok (.resolve request) => resolve environment request s
  | .ok (.keygen request) => { keygen environment request with surroundings := s }

end SyncedFile.CommandLine
