import SyncedFile.Failure.Misuse
import SyncedFile.FileTree.Editing
import SyncedFile.Log.Line
import SyncedFile.Path.Lexical

/-!
# Outlets

Where lines go. Records below a threshold are dropped. The others are written to the console in
either form and, where a file was opened, to the end of that file in the JSON form, in this order.

* `Outlets.configure` — outlets for the name of a level, or what is wrong with level or file;
* `Outlets.write`, `Outlets.writeEvents` — the lines of records.
-/

namespace SyncedFile.Log

/-- The two forms of a line. -/
inductive Form where
  | plain
  | json
  deriving DecidableEq

/-- Where lines go. -/
structure Outlets where
  /-- Records of a lower level are dropped. -/
  threshold : Int
  console : Form
  /-- The file, by its absolute path. -/
  file : Option Text := none
  host : Text := unknownHost

/-- What has been written: the text on the console, and the file tree. -/
structure Written where
  console : Text := []
  tree : FileTree := {}

/-- A record as one line, with the record as it is afterwards. -/
def Form.write (form : Form) (host : Text) (record : Record) : Except LineFault Text × Record :=
  match form with
  | .plain => (record.plainLine.map Points.escaped, record.stamped)
  | .json => (record.jsonLine host true, record)

namespace Outlets

/-- Opens a file for lines, creating it if it is missing. An empty path stands for no file. -/
def openFile (tree : FileTree) (working : Text) (file : Option Text) :
    Except Misuse (Option Text × FileTree) :=
  match file with
  | none | some [] => .ok (none, tree)
  | some path =>
    let path := Path.absolute working path
    if '\x00' ∈ path then .error .nulInPath
    else
      match tree.append path [] with
      | .ok tree => .ok (some path, tree)
      | .error errno => .error (.cannotOpen errno path)

/-- Outlets for the name of a level, with the tree in which the file has been opened. The level is
looked at first. -/
def configure (tree : FileTree) (working : Text) (level : Text) (console : Form)
    (file : Option Text) : Except Misuse (Outlets × FileTree) :=
  match levelNumber? level with
  | none => .error (.unknownLevel level)
  | some threshold =>
    (openFile tree working file).map fun opened =>
      ({ threshold := threshold, console := console, file := opened.1 }, opened.2)

def addLine (t : Text) : Except LineFault Text → Text
  | .ok line => t ++ line ++ ['\n']
  | .error _ => t

def write (outlets : Outlets) (written : Written) (level : Int) (record : Record) : Written :=
  if level < outlets.threshold then written
  else
    -- The console comes first, so the file gets the record as the console leaves it.
    let (line, record) := outlets.console.write outlets.host record
    let console := addLine written.console line
    match outlets.file with
    | none => { written with console := console }
    | some path =>
      match written.tree.append path (addLine [] (record.jsonLine outlets.host true)) with
      | .ok tree => { console := console, tree := tree }
      | .error _ => { written with console := console }

def writeEvents (outlets : Outlets) (written : Written) (moment : Moment)
    (events : List (Text × Event)) : Written :=
  events.foldl (fun written event =>
    outlets.write written event.2.level.number (.ofEvent event.1 moment event.2)) written

end Outlets
end SyncedFile.Log
