import SyncedFile.Proofs.FileTree.Making
import SyncedFile.Proofs.Runs

/-!
# Directories made ready

A directory is made ready by making what is missing of it. Doing so adds directories only, whatever
comes of it. Where it succeeds the directory is there, and doing it again changes nothing.

* `isDirectory_of_prepareDirectory`, `prepareDirectory_of_isDirectory` — success, and a second one;
* `Readies`, `readies_ensureDirectory` — what a run that makes a directory ready does to the files,
  and what it comes to.
-/

namespace SyncedFile

namespace FileTree

variable {tree after : FileTree} {path : Text}

/-- A walk that comes to a file has the file's name, or that of a link to it, as its last piece. -/
theorem Leads.exists_getLast? (rooted : tree.IsRooted) {links : Nat} {dir place : Place}
    {pieces : List Text} {content : Text} (start : tree.find? dir = some .directory)
    (leads : Leads tree links dir pieces place) (found : tree.find? place = some (.file content)) :
    ∃ name, pieces.getLast? = some name ∧ IsEntryName name := by
  induction leads with
  | arrived =>
    rw [start] at found
    cases found
  | here _ _ ih =>
    obtain ⟨name, last, isName⟩ := ih start found
    exact ⟨name, by rw [List.getLast?_cons, last]; rfl, isName⟩
  | up _ ih =>
    obtain ⟨name, last, isName⟩ := ih (rooted.dropLast start) found
    exact ⟨name, by rw [List.getLast?_cons, last]; rfl, isName⟩
  | down _ standing _ ih =>
    obtain ⟨name, last, isName⟩ := ih standing found
    exact ⟨name, by rw [List.getLast?_cons, last]; rfl, isName⟩
  | file isName => exact ⟨_, rfl, isName⟩
  | @link _ _ _ piece target rest isName _ _ ih =>
    obtain ⟨name, last, inner⟩ := ih (rooted.linkStart start _) found
    rw [List.getLast?_append] at last
    rw [List.getLast?_cons]
    cases final : rest.getLast? with
    | none => exact ⟨piece, rfl, isName⟩
    | some other =>
      rw [final] at last
      obtain rfl := Option.some.inj last
      exact ⟨_, rfl, inner⟩

/-- What a path that ends in `.` leads to is a directory. -/
theorem isDirectory_of_reaches (rooted : tree.IsRooted) (last : (above path).2 = ['.'])
    (reached : tree.reaches path = true) : tree.isDirectory path = true := by
  obtain ⟨node, found⟩ := Option.isSome_iff_exists.1 reached
  obtain ⟨place, located, standing⟩ := at?_eq_some_iff.1 found
  obtain ⟨-, links, -, leads⟩ := locate_eq_ok_iff.1 located
  have start := start_isDirectory rooted path
  rcases leads.stands rooted start with directory | ⟨content, file⟩
  · exact isDirectory_iff.2 (at?_eq_some_iff.2 ⟨place, located, directory⟩)
  · -- A file would be named by the last piece, which is `.` here.
    exfalso
    obtain ⟨name, final, isName⟩ := leads.exists_getLast? rooted start file
    obtain ⟨lead, pieces⟩ := List.getLast?_eq_some_iff.1 final
    obtain ⟨-, -, -, -, names⟩ := exists_above path
    have visible : [name].filter (· ≠ []) = [name] :=
      List.filter_cons_of_pos (decide_eq_true isName.ne_nil)
    have here : Path.names ['.'] = [['.']] := by decide
    rw [last, here, Path.names, pieces, List.filter_append, visible] at names
    obtain ⟨-, same⟩ := List.append_inj' names rfl
    exact isName.ne_here (List.cons.inj same).1

theorem prepareDirectory_eq (tree : FileTree) (readOnly : List Text) (path : Text) :
    tree.prepareDirectory readOnly path =
      if tree.isFile path then (some .isFile, tree)
      else
        match tree.makeDirectories path with
        | (some errno, after) => (some (.refused errno), after)
        | (none, after) =>
          if path ∈ readOnly ∨ !after.permits path then (some .unwritable, after)
          else (none, after) := rfl

theorem reaches_of_permits (permitted : tree.permits path = true) : tree.reaches path = true := by
  rw [permits] at permitted
  rw [reaches, at?]
  cases located : tree.locate path with
  | error errno =>
    rw [located] at permitted
    cases permitted
  | ok place =>
    rw [located] at permitted
    exact (Bool.and_eq_true_iff.1 permitted).1

theorem adds_prepareDirectory (rooted : tree.IsRooted) (readOnly : List Text) (path : Text) :
    AddsDirectories tree (tree.prepareDirectory readOnly path).2 ∧
      (tree.prepareDirectory readOnly path).2.IsRooted := by
  have adds := (makes_makeDirectories tree path).adds rooted
  rw [prepareDirectory_eq]
  split
  · exact ⟨.refl tree, rooted⟩
  · split
    · next made => rwa [made] at adds
    · next made =>
      rw [made] at adds
      split <;> exact adds

theorem isDirectory_of_prepareDirectory (rooted : tree.IsRooted) {readOnly : List Text}
    (ready : tree.prepareDirectory readOnly path = (none, after)) :
    after.isDirectory path = true ∧ path ∉ readOnly ∧ after.permits path = true := by
  rw [prepareDirectory_eq] at ready
  split at ready
  · cases ready
  · split at ready
    · cases ready
    · next between made =>
      split at ready
      · cases ready
      · next writable =>
        obtain ⟨-, rfl⟩ := Prod.mk.inj ready
        rw [not_or, Bool.not_eq_true', Bool.not_eq_false] at writable
        have makes := makes_makeDirectories tree path
        rw [made] at makes
        refine ⟨?_, writable⟩
        rcases makes.isDirectory rooted with standing | last
        · exact standing
        · exact isDirectory_of_reaches (makes.adds rooted).2 last (reaches_of_permits writable.2)

/-- A sealed directory is not ready, however the path is spelled, and nothing is made in it. -/
example :
    let tree : FileTree :=
      { entries := [(["sealed".toList], .directory), (["way".toList], .link "sealed")]
        seals := [(["sealed".toList], .denied)] }
    tree.prepareDirectory [] "/sealed/." = (some .unwritable, tree) ∧
      tree.prepareDirectory [] "/way/" = (some .unwritable, tree) ∧
      tree.prepareDirectory [] "/way/user/deep" = (some (.refused .denied), tree) := by
  decide +kernel

/-- Where the directory is there and can be written to, nothing is done. -/
theorem prepareDirectory_of_isDirectory (rooted : tree.IsRooted) {readOnly : List Text}
    (standing : tree.isDirectory path = true)
    (writable : path ∉ readOnly ∧ tree.permits path = true) :
    tree.prepareDirectory readOnly path = (none, tree) := by
  have present : ¬IsMissingAbove tree path := by
    intro missing
    have higher := reaches_of_isDirectory (isDirectory_above rooted standing missing.head)
    rw [missing.unreached] at higher
    cases higher
  obtain ⟨errno, refused⟩ := makeDirectory_of_isDirectory rooted standing
  have made : tree.makeDirectories path = (none, tree) := by
    rw [makeDirectories, makeDirectoriesWithin_of_present present, makeLast, refused]
    exact if_pos standing
  rw [prepareDirectory_eq, isFile_of_isDirectory standing, made]
  simp [writable]

theorem prepareDirectory_ne_nulInPath (noNul : '\x00' ∉ path) (readOnly : List Text) :
    (tree.prepareDirectory readOnly path).1 ≠ some (.refused .nulInPath) := by
  have makes := (makes_makeDirectories tree path).ne_nulInPath noNul
  rw [prepareDirectory_eq]
  split
  · exact nofun
  · split
    · next made =>
      rintro ⟨⟩
      rw [made] at makes
      exact makes rfl
    · split <;> exact nofun

end FileTree

variable {path : Text} {s t : Surroundings}

/-- What making a directory ready does to the files, and what it comes to. -/
structure Readies (path : Text) (s t : Surroundings) (result : Except Fault Unit) : Prop where
  /-- All that was there is as it was, and what is new is a directory in one that is not sealed. -/
  adds : s.tree.AddsDirectories t.tree
  rooted : t.tree.IsRooted
  standing : result = .ok () → t.tree.isDirectory path = true
  writable : result = .ok () → path ∉ s.readOnly ∧ t.tree.permits path = true
  /-- Doing it again succeeds and changes nothing. -/
  again : result = .ok () → ∃ u, (ensureDirectory (.text path)).run t = (.ok (), u) ∧ u.tree = t.tree
  failed : ∀ fault, result = .error fault → ∃ failure, fault = .failure failure ∧
    failure.kind = .directoryCreation ∧ ("directory".toList, .text path) ∈ failure.report.attributes

theorem ensureDirectory_run (noNul : '\x00' ∉ path) (s : Surroundings) :
    (ensureDirectory (.text path)).run s =
      match s.tree.prepareDirectory s.readOnly path with
      | (none, after) =>
        (.ok (), { s with tree := after, events := s.events ++ [.directoryReady (.text path)] })
      | (some why, after) =>
        (.error (.failure (.directoryUnusable (.text path) why)), { s with tree := after }) := by
  have noMisuse : (s.tree.prepareDirectory s.readOnly path).1 ≠ some (.refused .nulInPath) :=
    FileTree.prepareDirectory_ne_nulInPath noNul s.readOnly
  simp only [ensureDirectory, pathText?, Run.bind_run, Run.get_run]
  generalize s.tree.prepareDirectory s.readOnly path = prepared at noMisuse
  rcases prepared with ⟨_ | why, after⟩
  · rfl
  · cases why with
    | refused errno =>
      cases errno with
      | nulInPath => exact absurd rfl noMisuse
      | _ => rfl
    | _ => rfl

/-- Making a directory ready adds directories to the files and nothing else. Where it succeeds the
directory is there, and doing it again succeeds and changes nothing. -/
theorem readies_ensureDirectory (rooted : s.tree.IsRooted) (noNul : '\x00' ∉ path) :
    Readies path s ((ensureDirectory (.text path)).run s).2
      ((ensureDirectory (.text path)).run s).1 := by
  obtain ⟨adds, after⟩ := FileTree.adds_prepareDirectory rooted s.readOnly path
  rw [ensureDirectory_run noNul]
  rcases prepared : s.tree.prepareDirectory s.readOnly path with ⟨_ | why, tree⟩
  · -- The second run starts from the tree that the first one left.
    rw [prepared] at adds after
    obtain ⟨standing, writable⟩ := FileTree.isDirectory_of_prepareDirectory rooted prepared
    refine ⟨adds, after, fun _ => standing, fun _ => writable, fun _ => ?_, nofun⟩
    simp only [ensureDirectory_run noNul,
      FileTree.prepareDirectory_of_isDirectory after standing writable]
    exact ⟨_, rfl, rfl⟩
  · rw [prepared] at adds after
    refine ⟨adds, after, nofun, nofun, nofun, ?_⟩
    rintro fault ⟨⟩
    exact ⟨_, rfl, rfl, List.mem_cons_self⟩

/-- A link that leads nowhere leads to a directory once that has been made on the way, which passes
through a sealed directory without making anything there. -/
theorem readies_beyond_dangling_link :
    let tree : FileTree :=
      { entries := [(["data".toList], .directory),
          (["data".toList, "file".toList], .file "content"),
          (["data".toList, "link".toList], .link "user"),
          (["sealed".toList], .directory)]
        seals := [(["sealed".toList], .denied)] }
    let path : Text := "/sealed/../data/user/../link/deep"
    let made : Place := ["data".toList, "user".toList, "deep".toList]
    ∃ t, Readies path { tree := tree } t (.ok ()) ∧ t.tree.find? made = some .directory ∧
      tree.IsRooted ∧ '\x00' ∉ path := by
  intro tree path made
  have rooted : tree.IsRooted := FileTree.isRooted_of_entries (by decide) rfl
  have noNul : '\x00' ∉ path := by decide
  have readies := readies_ensureDirectory (s := { tree := tree }) rooted noNul
  have returns : ((ensureDirectory (.text path)).run { tree := tree }).1.toOption = some () := by
    decide +kernel
  have found : ((ensureDirectory (.text path)).run { tree := tree }).2.tree.find? made =
      some .directory := by
    decide +kernel
  generalize (ensureDirectory (.text path)).run { tree := tree } = outcome at *
  obtain ⟨result, t⟩ := outcome
  cases result with
  | error fault => cases returns
  | ok => exact ⟨t, readies, found, rooted, noNul⟩

end SyncedFile
