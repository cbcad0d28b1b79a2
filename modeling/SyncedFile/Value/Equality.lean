import SyncedFile.Value.Basic

/-!
# Equality of values

Values compare by content. Truth values, integers and floating-point numbers compare as numbers,
octet strings of all kinds by their octets, and a dictionary without regard to its order.
-/

namespace SyncedFile.Value

def equalsAtom : Value → Value → Bool
  | null, null => true
  | text t, text u => t == u
  | octets _ a, octets _ b => a == b
  | path t, path u => t == u
  | callable n f, callable m g => n == m && f == g
  | object n, object m => n == m
  | float x, float y => x.equals y
  | float x, v => (v.whole?.map x.isInt).getD false
  | v, float x => (v.whole?.map x.isInt).getD false
  | v, w =>
    match v.whole?, w.whole? with
    | some i, some j => i == j
    | _, _ => false

mutual

def equals : Value → Value → Bool
  | list xs, list ys => equalsAll xs ys
  | tuple xs, tuple ys => equalsAll xs ys
  | dict xs, dict ys => xs.length == ys.length && entriesIn xs ys
  | v, w => equalsAtom v w

def equalsAll : List Value → List Value → Bool
  | [], [] => true
  | v :: vs, w :: ws => equals v w && equalsAll vs ws
  | _, _ => false

/-- Each of some entries is an entry of a dictionary. -/
def entriesIn : List (Value × Value) → List (Value × Value) → Bool
  | [], _ => true
  | (k, v) :: rest, ys => ys.any (fun y => equals k y.1 && equals v y.2) && entriesIn rest ys

end

/-- The entries with another one: an entry with an equal key keeps its place and its key and gets the
new value. -/
def addEntry (entries : List (Value × Value)) (entry : Value × Value) : List (Value × Value) :=
  match entries with
  | [] => [entry]
  | first :: rest =>
    if equals first.1 entry.1 then (first.1, entry.2) :: rest else first :: addEntry rest entry

/-- The dictionary of some entries, among which keys may be equal. -/
def dictOf (entries : List (Value × Value)) : Value :=
  .dict (entries.foldl addEntry [])

def distinct (vs : List Value) : List Value :=
  vs.foldl (fun kept v => if kept.any (equals · v) then kept else kept ++ [v]) []

/-- Two rows of values hold the same elements, each row having no two equal ones. -/
def sameElements (xs ys : List Value) : Bool :=
  xs.length == ys.length && xs.all fun x => ys.any (equals x)

end SyncedFile.Value
