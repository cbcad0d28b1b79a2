import SyncedFile.FileTree.Canonical
import SyncedFile.FileTree.Directories
import SyncedFile.Proofs.Path.Names

/-!
# Trees without symbolic links

Without links a canonical path is found in the path itself, and making directories brings no link
about.

* `LinkFree` — no link stands anywhere;
* `resolve_eq_foldl` — resolving goes up and down only;
* `canonical_ofNames` — the canonical path of a file in a directory in normal form;
* `linkFree_prepareDirectory` — directories made ready.
-/

namespace SyncedFile

namespace FileTree

/-- No symbolic link stands in the tree. -/
def LinkFree (tree : FileTree) : Prop :=
  ∀ place target, tree.find? place ≠ some (.link target)

/-- Tracks one piece of a path where no link is met. -/
def follow (here : Waypoint) (piece : Text) : Waypoint :=
  if piece = [] ∨ piece = ['.'] then here
  else if piece = ['.', '.'] then here.up
  else here.down piece

variable {tree : FileTree}

theorem linkFree_empty : ({} : FileTree).LinkFree := by
  intro place target found
  rw [find?] at found
  split at found <;> cases found

theorem LinkFree.link?_eq_none (linkFree : tree.LinkFree) (here : Waypoint) :
    here.link? tree = none := by
  rw [Waypoint.link?]
  split
  · next target found => exact absurd found (linkFree _ target)
  · rfl

theorem resolve_eq_foldl (linkFree : tree.LinkFree) {pieces : List Text} {fuel : Nat}
    (enough : pieces.length ≤ fuel) (met : List (Waypoint × Option Waypoint)) (here : Waypoint) :
    resolve tree fuel met here (pieces.map .piece) = (pieces.foldl follow here).text := by
  -- One unit of fuel goes with each piece, since no link adds any to what is still to be followed.
  induction pieces generalizing fuel here with
  | nil => cases fuel <;> rfl
  | cons piece rest ih =>
    cases fuel with
    | zero => cases enough
    | succ fuel =>
      have others := ih (Nat.le_of_succ_le_succ enough)
      rw [List.map_cons, List.foldl_cons, resolve, follow]
      split
      · exact others here
      · split
        · exact others here.up
        · simp only [linkFree.link?_eq_none]
          exact others (here.down piece)

theorem le_foldl {Entry : Type} {step : Nat → Entry → Nat}
    (grows : ∀ steps entry, steps ≤ step steps entry) (entries : List Entry) (steps : Nat) :
    steps ≤ entries.foldl step steps := by
  induction entries generalizing steps with
  | nil => exact Nat.le_refl steps
  | cons entry rest ih => exact Nat.le_trans (grows steps entry) (ih (step steps entry))

theorem le_resolveFuel (tree : FileTree) (pieces : Nat) : pieces ≤ tree.resolveFuel pieces := by
  refine Nat.le_trans (Nat.le_succ pieces) (le_foldl ?_ tree.entries (pieces + 1))
  rintro steps ⟨place, node⟩
  cases node with
  | link target => exact Nat.le_add_right _ _
  | _ => exact Nat.le_refl steps

/-! ## Canonical paths -/

/-- The names that lead from a directory to what a file name stands for there. -/
def namesOf (directory : List Text) (fileName : Text) : List Text :=
  if fileName = [] ∨ fileName = ['.'] then directory
  else if fileName = ['.', '.'] then directory.dropLast
  else directory ++ [fileName]

theorem follow_namesOf (directory : List Text) (fileName : Text) :
    follow ⟨true, directory⟩ fileName = ⟨true, namesOf directory fileName⟩ := by
  rw [follow, namesOf]
  split
  · rfl
  · split
    · rfl
    · rfl

theorem namesOf_of_isName (directory : List Text) {fileName : Text}
    (isName : Path.IsName fileName) : namesOf directory fileName = directory ++ [fileName] := by
  rw [namesOf, if_neg (not_or.2 ⟨isName.ne_nil, isName.ne_here⟩), if_neg isName.ne_above]

theorem isName_of_mem_namesOf {directory : List Text} {fileName : Text}
    (names : ∀ name ∈ directory, Path.IsName name) (noSlash : '/' ∉ fileName) :
    ∀ name ∈ namesOf directory fileName, Path.IsName name := by
  rw [namesOf]
  split
  · exact names
  · next visible =>
    rw [not_or] at visible
    split
    · exact fun name mem => names name (List.dropLast_subset _ mem)
    · next notAbove =>
      exact List.forall_mem_append.2 ⟨names,
        List.forall_mem_singleton.2 ⟨visible.1, noSlash, visible.2, notAbove⟩⟩

theorem foldl_follow_names {anchored : Bool} {names : List Text} (above : List Text)
    (plain : ∀ name ∈ names, Path.IsName name) :
    names.foldl follow ⟨anchored, above⟩ = ⟨anchored, above ++ names⟩ := by
  induction names generalizing above with
  | nil => rw [List.append_nil]; rfl
  | cons name rest ih =>
    obtain ⟨first, others⟩ := List.forall_mem_cons.1 plain
    have down : follow ⟨anchored, above⟩ name = ⟨anchored, above ++ [name]⟩ := by
      rw [follow, if_neg (not_or.2 ⟨first.ne_nil, first.ne_here⟩), if_neg first.ne_above]
      rfl
    rw [List.foldl_cons, down, ih _ others, List.append_assoc, List.singleton_append]

theorem foldl_follow_replicate_nil (n : Nat) (here : Waypoint) :
    (List.replicate n ([] : Text)).foldl follow here = here := by
  induction n with
  | zero => rfl
  | succ n ih => exact ih

theorem canonical_ofNames (linkFree : tree.LinkFree) {slashes : Nat} (positive : slashes ≠ 0)
    {directory : List Text} (nonempty : directory ≠ [])
    (names : ∀ name ∈ directory, Path.IsName name) {fileName : Text} (noSlash : '/' ∉ fileName) :
    tree.canonical (Path.ofNames slashes directory ++ '/' :: fileName) =
      Path.ofNames 1 (namesOf directory fileName) := by
  have pieces : Text.splitOn '/' (Path.ofNames slashes directory ++ '/' :: fileName) =
      List.replicate slashes [] ++ (directory ++ [fileName]) := by
    rw [Text.splitOn_append_sep, Path.splitOn_ofNames slashes (Path.arePieces_of_isName names),
      if_neg nonempty, Text.splitOn_of_notMem noSlash, List.append_assoc]
  have absolute : Path.isAbsolute (Path.ofNames slashes directory ++ '/' :: fileName) = true := by
    obtain ⟨n, rfl⟩ := Nat.exists_eq_succ_of_ne_zero positive
    rfl
  have followed : (List.replicate slashes [] ++ (directory ++ [fileName])).foldl follow ⟨true, []⟩ =
      ⟨true, namesOf directory fileName⟩ := by
    rw [List.foldl_append, foldl_follow_replicate_nil, List.foldl_append,
      foldl_follow_names [] names]
    exact follow_namesOf directory fileName
  have text : Waypoint.text ⟨true, namesOf directory fileName⟩ =
      Path.ofNames 1 (namesOf directory fileName) := rfl
  rw [canonical, resolve_eq_foldl linkFree (le_resolveFuel tree _), absolute, pieces, followed, text]
  exact Path.normalize_ofNames (.inl rfl) (isName_of_mem_namesOf names noSlash)

/-! ## Making directories -/

theorem linkFree_insert (linkFree : tree.LinkFree) (place : Place) :
    (tree.insert place .directory).LinkFree := by
  intro other target found
  by_cases same : other = place
  · subst same
    rw [find?] at found
    split at found
    · cases found
    · next below =>
      have before := linkFree other target
      rw [find?, if_neg below] at before
      rw [insert, List.find?_append] at found
      cases first : tree.entries.find? (·.1 = other) with
      | none =>
        rw [first] at found
        simp at found
      | some entry =>
        rw [first] at found before
        exact before found
  · rw [find?_insert_of_ne same] at found
    exact linkFree other target found

theorem makeDirectory_eq_ok {path : Text} {after : FileTree}
    (made : tree.makeDirectory path = .ok after) : ∃ place, after = tree.insert place .directory := by
  simp only [makeDirectory] at made
  split at made
  · cases made
  · split at made
    · cases made
    · split at made
      · cases made
      · split at made
        · cases made
        · split at made
          · cases made
          · split at made
            · cases made
            · split at made
              · cases made
              · split at made
                · cases made
                · split at made
                  · cases made
                  · exact ⟨_, (Except.ok.inj made).symm⟩

theorem linkFree_makeDirectoriesWithin (linkFree : tree.LinkFree) (depth : Nat) (path : Text) :
    (tree.makeDirectoriesWithin depth path).2.LinkFree := by
  -- The directories above come first, and what they leave is free of links by induction.
  induction depth generalizing tree path with
  | zero => exact linkFree
  | succ depth ih =>
    simp only [makeDirectoriesWithin]
    generalize higher : (if (above path).1 ≠ [] ∧ (above path).2 ≠ [] ∧
      (!tree.reaches (above path).1) = true then makeDirectoriesWithin depth tree (above path).1
      else (none, tree)) = made
    have free : made.2.LinkFree := by
      rw [← higher]
      split
      · exact ih linkFree _
      · exact linkFree
    split
    · exact free
    · split
      · exact free
      · split
        · next after last =>
          obtain ⟨place, rfl⟩ := makeDirectory_eq_ok last
          exact linkFree_insert free place
        · split
          · exact free
          · exact free

theorem linkFree_prepareDirectory (linkFree : tree.LinkFree) (readOnly : List Text) (path : Text) :
    (tree.prepareDirectory readOnly path).2.LinkFree := by
  have made := linkFree_makeDirectoriesWithin linkFree (path.length + 1) path
  rw [prepareDirectory]
  split
  · exact linkFree
  · rw [makeDirectories]
    split
    · next eq =>
      rw [eq] at made
      exact made
    · next eq =>
      rw [eq] at made
      split
      · exact made
      · exact made

end FileTree
end SyncedFile
