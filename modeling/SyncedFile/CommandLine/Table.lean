import SyncedFile.CommandLine.Markup
import SyncedFile.Text.Wrap

/-!
# Printing on a terminal

Text goes to a terminal without its markup and without characters that would move the cursor, in
lines that fit the width. A table of two columns has a title in its middle, a frame, a heading in
heavier lines, and columns as wide as their content.

* `printable`, `printed` — text as it appears on the terminal;
* `Table.print` — a table.
-/

namespace SyncedFile.CommandLine

/-- The text without the characters that would ring a bell or move the cursor. -/
def withoutControls (t : Text) : Text :=
  t.filter fun c => c.toNat ∉ [0x07, 0x08, 0x0B, 0x0C, 0x0D]

def appearance (markup : Text) : Text :=
  withoutControls (Markup.render markup)

def printed (width : Nat) (markup : Text) : Text :=
  (Text.wrap width (appearance markup)).flatMap fun line => line ++ ['\n']

/-- A table of two columns. Its cells may hold markup. -/
structure Table where
  title : Text
  heading : Text × Text
  rows : List (Text × Text)

namespace Table

/-- The characters of one line of a frame: its left end, the line itself, where it meets the line
between the columns, and its right end. -/
structure Rule where
  left : Char
  line : Char
  middle : Char
  right : Char

def top : Rule := ⟨'┏', '━', '┳', '┓'⟩

def below : Rule := ⟨'┡', '━', '╇', '┩'⟩

def bottom : Rule := ⟨'└', '─', '┴', '┘'⟩

/-- A line of the frame around columns of these widths, which have a space on both sides. -/
def Rule.draw (rule : Rule) (widths : Nat × Nat) : Text :=
  let along (width : Nat) := List.replicate (width + 2) rule.line
  rule.left :: along widths.1 ++ rule.middle :: along widths.2 ++ [rule.right, '\n']

def cellLines (width : Nat) (cell : Text) : List Text :=
  (Text.wrap width cell).map (Text.fillTo width)

/-- The lines of two cells side by side; the shorter cell is followed by empty lines. -/
def beside (widths : Nat × Nat) : List Text → List Text → List (Text × Text)
  | [], [] => []
  | l :: ls, [] => (l, Text.fillTo widths.2 []) :: beside widths ls []
  | [], r :: rs => (Text.fillTo widths.1 [], r) :: beside widths [] rs
  | l :: ls, r :: rs => (l, r) :: beside widths ls rs

def row (line : Char) (widths : Nat × Nat) (cells : Text × Text) : Text :=
  (beside widths (cellLines widths.1 cells.1) (cellLines widths.2 cells.2)).flatMap fun pair =>
    line :: ' ' :: pair.1 ++ ' ' :: line :: ' ' :: pair.2 ++ [' ', line, '\n']

def centred (width : Nat) (t : Text) : Text :=
  let room := width - Text.cellLength t
  Text.fillTo width (List.replicate (room / 2) ' ' ++ t) ++ ['\n']

/-- The widths of the columns: those of their widest cells. Where the terminal is too narrow, the
second column gives way. -/
def widths (terminal : Nat) (cells : List (Text × Text)) : Nat × Nat :=
  let widest (column : Text × Text → Text) := (cells.map (Text.measure ∘ column)).foldl max 1
  let first := widest (·.1)
  (first, min (widest (·.2)) (max 1 (terminal - first - 7)))

def print (terminal : Nat) (table : Table) : Text :=
  let heading := (appearance table.heading.1, appearance table.heading.2)
  let rows := table.rows.map fun cells => (appearance cells.1, appearance cells.2)
  let widths := widths terminal (heading :: rows)
  centred (widths.1 + widths.2 + 7) table.title
    ++ top.draw widths ++ row '┃' widths heading ++ below.draw widths
    ++ rows.flatMap (row '│' widths) ++ bottom.draw widths

end Table
end SyncedFile.CommandLine
