import SyncedFile.Text.Points
import SyncedFile.Text.Quoted

/-!
# Requests

What the arguments of a command line ask for. The first argument names a command; of those after it,
the ones that start with a dash are options, which may stand in any place. An option takes its value
from behind an equals sign, from the rest of a short option, or from the next argument, whatever
that is. Of several values of one option the last one counts, and after `--` there are no options.

An argument may hold halves of surrogate pairs, which stand for octets that are no text. A key is
made for any password; a configuration is asked for in texts only.

* `Switch`, `scan` — options, and arguments taken apart;
* `Request`, `Request.ofArguments` — what is asked for, or what is wrong with the arguments.
-/

namespace SyncedFile.CommandLine

/-- What is wrong with the arguments. -/
inductive UsageFault where
  | noCommand
  | unknownCommand (name : Text)
  | unknownSwitch (name : Text)
  | valueMissing (switch : Text)
  | valueRefused (switch : Text)
  | urlMissing
  | extraArgument (argument : Text)
  /-- What a configuration is asked for with is no text. -/
  | notText (argument : Text)
  deriving DecidableEq

def UsageFault.message : UsageFault → Text
  | noCommand => "Missing command."
  | unknownCommand name => "No such command " ++ Text.quoted name ++ "."
  | unknownSwitch name => "No such option: " ++ name
  | valueMissing switch => "Option " ++ Text.quoted switch ++ " requires an argument."
  | valueRefused switch => "Option " ++ Text.quoted switch ++ " does not take a value."
  | urlMissing => "Missing argument 'URL'."
  | extraArgument argument => "Got unexpected extra argument (" ++ argument ++ ")"
  | notText argument => "Not a text: " ++ argument

/-! ## Options -/

/-- An option: a flag, or one that takes a value and may have a letter of its own. -/
inductive Switch where
  | flag (name : Text)
  | valued (name : Text) (letter : Option Char)

namespace Switch

def name : Switch → Text
  | flag name => name
  | valued name _ => name

def hasLetter (point : Point) : Switch → Bool
  | flag _ => false
  | valued _ letter => letter.map .char == some point

end Switch

/-- Arguments taken apart: options with their values, a flag with an empty one, and the rest. -/
structure Given where
  switches : List (Text × Points) := []
  positional : List Points := []

def Given.value? (given : Given) (name : Text) : Option Points :=
  (given.switches.reverse.find? (·.1 = name)).map (·.2)

/-- What one argument is. -/
inductive Reading where
  | positional
  /-- An option with its value, or a flag. -/
  | complete (name : Text) (value : Points)
  /-- An option whose value is the next argument. -/
  | awaiting (name : Text)

def readName (switches : List Switch) (argument : Points) : Except UsageFault Reading :=
  let before := argument.takeWhile (· ≠ .char '=')
  let value := (argument.drop before.length).tail?
  match switches.find? (·.name.points = before), value with
  | none, _ => .error (.unknownSwitch (Points.escaped before))
  | some (.flag name), none => .ok (.complete name [])
  | some (.flag name), some _ => .error (.valueRefused name)
  | some (.valued name _), some value => .ok (.complete name value)
  | some (.valued name _), none => .ok (.awaiting name)

def readLetter (switches : List Switch) (letter : Point) (rest : Points) :
    Except UsageFault Reading :=
  match switches.find? (·.hasLetter letter) with
  | none => .error (.unknownSwitch ('-' :: Points.escaped [letter]))
  | some switch =>
    if rest = [] then .ok (.awaiting switch.name) else .ok (.complete switch.name rest)

def read (switches : List Switch) : Points → Except UsageFault Reading
  | .char '-' :: .char '-' :: rest => readName switches (.char '-' :: .char '-' :: rest)
  | .char '-' :: letter :: rest => readLetter switches letter rest
  | _ => .ok .positional

def scan (switches : List Switch) : List Points → Except UsageFault Given
  | [] => .ok {}
  | argument :: rest =>
    if argument = [.char '-', .char '-'] then .ok { positional := rest }
    else
      match read switches argument with
      | .error fault => .error fault
      | .ok .positional =>
        (scan switches rest).map fun given =>
          { given with positional := argument :: given.positional }
      | .ok (.complete name value) =>
        (scan switches rest).map fun given =>
          { given with switches := (name, value) :: given.switches }
      | .ok (.awaiting name) =>
        match rest with
        | [] => .error (.valueMissing name)
        | value :: rest =>
          (scan switches rest).map fun given =>
            { given with switches := (name, value) :: given.switches }

/-! ## Requests -/

/-- A configuration is asked for. -/
structure ResolveRequest where
  url : Text
  identity : Option Text := none
  authUrl : Text := "https://localhost"
  root : Option Text := none
  name : Option Text := none
  json : Bool := false
  logLevel : Text := "WARNING"

/-- A key is asked for. -/
structure KeyRequest where
  password : Option Points := none
  salt : Option Points := none

/-- What is asked for. -/
inductive Request where
  | help
  | resolve (request : ResolveRequest)
  | keygen (request : KeyRequest)

def helpSwitch : Text := "--help"

def resolveSwitches : List Switch :=
  [.valued "--identity" 'u', .valued "--auth-url" none, .valued "--root-dir" 'd',
    .valued "--name" 'n', .flag "--json", .valued "--log-level" none, .flag helpSwitch]

def keygenSwitches : List Switch :=
  [.valued "--password" 'p', .valued "--salt" none, .flag helpSwitch]

namespace Request

def textOf (argument : Points) : Except UsageFault Text :=
  match argument.text? with
  | some t => .ok t
  | none => .error (.notText argument.escaped)

def ofResolve (arguments : List Points) : Except UsageFault Request := do
  let given ← scan resolveSwitches arguments
  let value? (name : Text) := (given.value? name).mapM textOf
  if (given.value? helpSwitch).isSome then return .help
  match given.positional with
  | [] => throw .urlMissing
  | _ :: extra :: _ => throw (.extraArgument extra.escaped)
  | [url] =>
    let usual : ResolveRequest := { url := ← textOf url }
    return .resolve { usual with
      identity := ← value? "--identity"
      authUrl := (← value? "--auth-url").getD usual.authUrl
      root := ← value? "--root-dir"
      name := ← value? "--name"
      json := (given.value? "--json").isSome
      logLevel := (← value? "--log-level").getD usual.logLevel }

def ofKeygen (arguments : List Points) : Except UsageFault Request := do
  let given ← scan keygenSwitches arguments
  if (given.value? helpSwitch).isSome then return .help
  match given.positional with
  | extra :: _ => throw (.extraArgument extra.escaped)
  | [] =>
    return .keygen { password := given.value? "--password", salt := given.value? "--salt" }

def ofCommand : List Points → Except UsageFault Request
  | [] => .error .noCommand
  | command :: arguments =>
    if command = Text.points "resolve" then ofResolve arguments
    else if command = Text.points "keygen" then ofKeygen arguments
    else .error (.unknownCommand command.escaped)

/-- The request of a command line. Before the command only help can be asked for. -/
def ofArguments : List Points → Except UsageFault Request
  | [] => .error .noCommand
  | first :: rest =>
    if first = [.char '-', .char '-'] then ofCommand rest
    else if first = helpSwitch.points then .ok .help
    else
      match first with
      | .char '-' :: _ :: _ => .error (.unknownSwitch first.escaped)
      | _ => ofCommand (first :: rest)

end Request
end SyncedFile.CommandLine
