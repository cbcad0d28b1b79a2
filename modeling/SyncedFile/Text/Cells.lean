import SyncedFile.Text.Basic
import SyncedFile.Text.Widths

/-!
# Cells

On a terminal a character takes one cell, a wide one two, and a control or combining one none. Two
characters without a width of their own act on their neighbours: a joiner makes the character after
it a part of the one before, and an emoji sign asks for the wide form of the character before. This
module measures text in cells, cuts it to a number of them, and fills it up.

* `cells`, `cellLength` — the cells of a character and of a text;
* `Cluster`, `clusters` — the stretches of a text that are shown as one character;
* `crop`, `fillTo` — a text cut to, or filled up to, a width.

Main statement: the clusters of a text are the text (`flatten_clusters`).
-/

namespace SyncedFile.Text

/-! ## Measuring -/

/-- Makes the character after it a part of the one before. -/
def joiner : Char := Char.ofNat 0x200D

/-- Asks for the wide form of the character before. -/
def emojiSign : Char := Char.ofNat 0xFE0F

def cells (c : Char) : Nat :=
  if 0x20 ≤ c.toNat ∧ c.toNat < 0x7F then 1
  else if zeroWidth.contains c.toNat then 0
  else if doubleWidth.contains c.toNat then 2
  else 1

def widening (before : Option Char) : Nat :=
  if before.any fun c => emojiWidth.contains c.toNat then 1 else 0

/-- The number of cells of a text after the character `before`, which is the last one of any
width. -/
def cellLengthAfter (before : Option Char) : Text → Nat
  | [] => 0
  | [c] => if c = emojiSign then widening before else if c = joiner then 0 else cells c
  | c :: d :: rest =>
    if c = joiner then cellLengthAfter before rest
    else if c = emojiSign then widening before + cellLengthAfter none (d :: rest)
    else if cells c = 0 then cellLengthAfter before (d :: rest)
    else cells c + cellLengthAfter (some c) (d :: rest)

def cellLength (t : Text) : Nat :=
  cellLengthAfter none t

/-! ## Clusters -/

/-- A stretch of a text that is shown as one character, and its cells. -/
structure Cluster where
  text : Text
  width : Nat

/-- The cluster with more characters that take no cells of their own. -/
def Cluster.append (cluster : Cluster) (t : Text) : Cluster :=
  { cluster with text := cluster.text ++ t }

/-- The clusters of a text that follows the beginning of one; `before` is the last character of any
width. -/
def clustersAfter (cluster : Cluster) (before : Option Char) : Text → List Cluster
  | [] => [cluster]
  | [c] =>
    if c = emojiSign then [⟨cluster.text ++ [c], cluster.width + widening before⟩]
    else if cells c = 0 ∨ c = joiner then [cluster.append [c]]
    else [cluster, ⟨[c], cells c⟩]
  | c :: d :: rest =>
    if c = joiner then clustersAfter (cluster.append [c, d]) before rest
    else if c = emojiSign then
      clustersAfter ⟨cluster.text ++ [c], cluster.width + widening before⟩ none (d :: rest)
    else if cells c = 0 then clustersAfter (cluster.append [c]) before (d :: rest)
    else cluster :: clustersAfter ⟨[c], cells c⟩ (some c) (d :: rest)

def clusters : Text → List Cluster
  | [] => []
  | c :: rest => clustersAfter ⟨[c], cells c⟩ (if cells c = 0 then none else some c) rest

theorem flatten_clustersAfter (cluster : Cluster) (before : Option Char) (t : Text) :
    ((clustersAfter cluster before t).map Cluster.text).flatten = cluster.text ++ t := by
  fun_induction clustersAfter cluster before t <;> simp_all [Cluster.append]

theorem flatten_clusters (t : Text) : ((clusters t).map Cluster.text).flatten = t := by
  cases t with
  | nil => rfl
  | cons c rest => simp [clusters, flatten_clustersAfter]

/-! ## Cutting and filling -/

/-- The clusters that fit a width, as text; a wide one that does so only by half is a space. -/
def cropClusters (width : Nat) : List Cluster → Text
  | [] => []
  | cluster :: rest =>
    if cluster.width ≤ width then cluster.text ++ cropClusters (width - cluster.width) rest
    else if width = 0 then [] else [' ']

def crop (width : Nat) (t : Text) : Text :=
  if width = 0 then [] else cropClusters width (clusters t)

def addSpaces (width : Nat) (t : Text) : Text :=
  t ++ List.replicate (width - cellLength t) ' '

/-- The text filled up with spaces to a width in cells. A joiner at its end takes in one of them, so
that the outcome is measured once more. -/
def fillTo (width : Nat) (t : Text) : Text :=
  addSpaces width (addSpaces width t)

end SyncedFile.Text
