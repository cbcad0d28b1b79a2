import SyncedFile.Text.Cells

/-!
# Wrapping

Text as it is set on a terminal of some width: a line that is too long goes on in the next one,
where possible at white space, and a word that is longer than a line is taken apart.

* `measure` — the width that a text asks for;
* `expandTabs` — tabs as spaces;
* `words` — a line in words, each with the white space around it;
* `wrap` — the lines of a text.

Main statement: taking words apart loses nothing (`flatten_chop`).
-/

namespace SyncedFile.Text

/-- The width that a text asks for: the cells of its longest line. A tab counts for nothing here. -/
def measure (t : Text) : Nat :=
  ((lines t).map cellLength).foldl max 0

def tabStop : Nat := 8

/-- Pieces of a line with every tab between them as spaces up to the next stop; `column` cells stand
before them. -/
def setTabs (column : Nat) : List Text → Text
  | [] => []
  | [piece] => piece
  | piece :: more =>
    -- A tab is one space at least, and it is measured with the piece before it.
    let column := column + cellLength (piece ++ [' '])
    let next := (column + tabStop - 1) / tabStop * tabStop
    piece ++ ' ' :: List.replicate (next - column) ' ' ++ setTabs next more

def expandTabs (line : Text) : Text :=
  setTabs 0 (splitOn '\t' line)

/-! ## Words -/

def pieces : Text → List Text
  | [] => []
  | c :: rest =>
    match pieces rest with
    | [] => [[c]]
    | piece :: more =>
      if isBlank c && !(piece.head?.any isBlank) then [c] :: piece :: more
      else (c :: piece) :: more

/-- The words of a line, each with the white space after it. White space at the beginning belongs to
the first word. -/
def words (t : Text) : List Text :=
  match pieces t with
  | first :: second :: more =>
    if first.all isBlank then (first ++ second) :: more else first :: second :: more
  | single => single

theorem flatten_pieces (t : Text) : (pieces t).flatten = t := by
  induction t with
  | nil => rfl
  | cons c rest ih =>
    cases hp : pieces rest with
    | nil => simp_all [pieces]
    | cons piece more =>
      rw [hp, List.flatten_cons] at ih
      simp only [pieces, hp]
      split <;> simp [ih]

theorem flatten_words (t : Text) : (words t).flatten = t := by
  rw [← flatten_pieces t, words]
  split
  · split <;> simp_all [flatten_pieces]
  · simp [flatten_pieces]

/-- Clusters in lines so that every line fits the width, after `taken`, which fills `used` cells. -/
def chopClusters (width used : Nat) (taken : Text) : List Cluster → List Text
  | [] => [taken]
  | cluster :: rest =>
    if width < used + cluster.width then
      taken :: chopClusters width cluster.width cluster.text rest
    else chopClusters width (used + cluster.width) (taken ++ cluster.text) rest

def chop (width : Nat) (word : Text) : List Text :=
  chopClusters width 0 [] (clusters word)

theorem flatten_chopClusters (width used : Nat) (taken : Text) (clusters : List Cluster) :
    (chopClusters width used taken clusters).flatten
      = taken ++ (clusters.map Cluster.text).flatten := by
  induction clusters generalizing used taken with
  | nil => simp [chopClusters]
  | cons cluster rest ih =>
    by_cases h : width < used + cluster.width
    · simp [chopClusters, h, ih]
    · simp [chopClusters, h, ih]

theorem flatten_chop (width : Nat) (word : Text) : (chop width word).flatten = word := by
  simp [chop, flatten_chopClusters, flatten_clusters]

/-! ## Lines -/

/-- Lines while they are filled: those that are full, and the one that words are still put into. -/
structure Filling where
  full : List Text := []
  current : Text := []
  /-- The cells of the current line. -/
  used : Nat := 0

/-- The last of some parts becomes the current line, those before it are full. -/
def Filling.endIn (filling : Filling) : List Text → Filling
  | [] => filling
  | [part] => { filling with current := part, used := cellLength part }
  | part :: more => { filling with full := filling.full ++ [part] }.endIn more

/-- Puts a word into the current line, or into a new one where it does not fit. -/
def Filling.add (width : Nat) (filling : Filling) (word : Text) : Filling :=
  -- White space after a word need not fit.
  let needed := cellLength (trimEnd word)
  if filling.used + needed ≤ width then
    { filling with
      current := filling.current ++ word
      used := filling.used + cellLength word }
  else
    let closed :=
      if filling.current = [] then filling
      else { filling with full := filling.full ++ [filling.current] }
    if width < needed then closed.endIn (chop width word) else closed.endIn [word]

/-- A line as it is set: white space at the end that is over the width goes, and so does what is
left of it beyond the width. -/
def settle (width : Nat) (line : Text) : Text :=
  let excess := line.length - width
  let blanks := line.length - (trimEnd line).length
  let line := line.take (line.length - min excess blanks)
  if width < cellLength line then crop width line else line

def wrapLine (width : Nat) (line : Text) : List Text :=
  let line := if '\t' ∈ line then expandTabs line else line
  let filling := (words line).foldl (Filling.add width) {}
  (filling.full ++ [filling.current]).map (settle width)

def wrap (width : Nat) (t : Text) : List Text :=
  (splitOn '\n' t).flatMap (wrapLine width)

end SyncedFile.Text
