import SyncedFile.Text.LetterCase
import SyncedFile.Uri.Basic

/-!
# The parts of an authority

An authority names a host, maybe who asks before an `@`, and maybe a port after a colon.
-/

namespace SyncedFile.Uri

/-- The host as written, without its brackets, and the text of the port. -/
def hostAndPort (authority : Text) : Text × Text :=
  let info := hostInfo authority
  match Text.cut '[' info with
  | (_, some bracketed) =>
    let (host, after) := Text.cut ']' bracketed
    (host, (Text.cut ':' (after.getD [])).2.getD [])
  | (_, none) =>
    let (host, port) := Text.cut ':' info
    (host, port.getD [])

/-- The host in lower case, up to a zone, which keeps its case. -/
def host? (uri : Uri) : Option Text :=
  let host := (hostAndPort uri.authority).1
  if host = [] then none
  else
    match Text.cut '%' host with
    | (name, none) => some (Text.lower name)
    | (name, some zone) => some (Text.lower name ++ '%' :: zone)

def port? (uri : Uri) : Except Fault (Option Nat) :=
  let port := (hostAndPort uri.authority).2
  if port = [] then .ok none
  else
    match Text.digits? port with
    | none => .error (.portNotANumber port)
    | some n =>
      if maxDigits < port.length then .error (.portTooLong port.length)
      else if 65535 < n then .error .portTooLarge
      else .ok (some n)

def userinfo? (uri : Uri) : Option Text :=
  match (Text.cutLast '@' uri.authority).1 with
  | none => none
  | some [] => none
  | some who => some who

end SyncedFile.Uri
