import SyncedFile.Proofs.Builder.Uses

/-!
# Files in their directories

The file of a configuration lies in its directory, and so do its siblings. There is one way out: a
file name that is set may read `.` or `..`. No character of these is forbidden, so they are kept,
and the file is then put in place of the directory or of the one above it.

* `Path.withOneSlash` — the form in which canonical paths start;
* `Configuration.InDirectory`, `Configuration.OutOfDirectory` — where a file lies;
* `Builder.isName_fileName_of_outcome` — the name of a file, unless it leads elsewhere;
* `Builder.canonicalPath_eq_fullPath_iff` — when a file lies in its directory.
-/

namespace SyncedFile

/-- A path that starts with two slashes starts with one in its canonical form. -/
def Path.withOneSlash : Text → Text
  | '/' :: '/' :: rest => '/' :: rest
  | path => path

theorem Path.withOneSlash_ofNames {slashes : Nat} (one_or_two : slashes = 1 ∨ slashes = 2)
    {pieces : List Text} (plain : ArePieces pieces) :
    withOneSlash (ofNames slashes pieces) = ofNames 1 pieces := by
  rcases one_or_two with rfl | rfl
  · cases joined : Text.joinWith ['/'] pieces with
    | nil => simp only [ofNames, joined]; rfl
    | cons c rest =>
      -- The first name does not start with a slash, so there is no second one to drop.
      have other : c ≠ '/' := head?_joinWith plain (by rw [joined]; rfl)
      simp only [ofNames, joined, List.replicate_one, List.singleton_append]
      unfold withOneSlash
      split
      · next eq => exact absurd (List.cons.inj (List.cons.inj eq).2).1 other
      · rfl
  · rfl

/-! ## Names that are relative -/

namespace LocalPath

theorem sanitize_of_isRelative {name : Text}
    (relative : Segment.isRelative (sanitize name) = true) : sanitize name = name := by
  have dots : ∀ c ∈ sanitize name, c = '.' := by
    rcases Segment.isRelative_iff.1 relative with same | same <;> simp [same]
  refine sanitize_eq_self fun c mem bad => ?_
  -- The dot is not what takes the place of a forbidden character.
  have dot := dots (sanitizeChar c) (by rw [sanitize_eq_map]; exact List.mem_map_of_mem mem)
  rw [sanitizeChar, if_pos bad] at dot
  exact absurd dot (by decide)

/-- A file name that is relative has been kept, and with it the path on the server. -/
theorem strategy_of_isRelative {strategy : Strategy} {name : Text}
    (relative : Segment.isRelative (sanitize (strategy.fileName name)) = true) :
    strategy = .full ∧ sanitize (strategy.fileName name) = name := by
  obtain rfl | digest := fileName_cases strategy name
  · exact ⟨rfl, sanitize_of_isRelative relative⟩
  · have down := Segment.isRelative_of_isName (isName_digestName name)
    rw [digest, Segment.sanitize_of_isSegment (isSegment_digestName name), down] at relative
    cases relative

end LocalPath

/-! ## Files in and out of their directories -/

namespace Configuration

/-- The file and its siblings are children of the directory. -/
structure InDirectory (c : Configuration) : Prop where
  fileName : Path.IsName c.fileName
  canonicalPath : c.canonicalPath = LocalPath.fullPath (Path.withOneSlash c.directory) c.fileName
  lockPath : c.lockPath =
    LocalPath.fullPath (Path.withOneSlash c.directory) (c.fileName ++ ".lock")
  managementPath : c.managementPath =
    LocalPath.fullPath (Path.withOneSlash c.directory) (c.fileName ++ ".management")

/-- The file takes the place of its directory, or of the one above it. -/
inductive OutOfDirectory (c : Configuration) : Prop where
  | here (fileName : c.fileName = ['.'])
      (canonicalPath : c.canonicalPath = Path.withOneSlash c.directory)
  | above (fileName : c.fileName = ['.', '.']) (last : Text)
      (directory : Path.withOneSlash c.directory = LocalPath.fullPath c.canonicalPath last)

variable {c : Configuration}

theorem inDirectory_of_canonicalPath (named : Path.IsName c.fileName)
    (child : c.canonicalPath = LocalPath.fullPath (Path.withOneSlash c.directory) c.fileName) :
    c.InDirectory := by
  refine ⟨named, child, ?_, ?_⟩
  · rw [lockPath, child]
    exact List.append_assoc _ _ _
  · rw [managementPath, child]
    exact List.append_assoc _ _ _

/-- A child has a longer path than its directory. -/
theorem OutOfDirectory.canonicalPath_ne (out : c.OutOfDirectory) :
    c.canonicalPath ≠ LocalPath.fullPath (Path.withOneSlash c.directory) c.fileName := by
  have longer (directory fileName : Text) :
      directory.length < (LocalPath.fullPath directory fileName).length := by
    rw [LocalPath.fullPath, List.length_append, List.length_cons]
    omega
  intro child
  have below := longer (Path.withOneSlash c.directory) c.fileName
  rw [← child] at below
  cases out with
  | here _ canonicalPath =>
    rw [canonicalPath] at below
    exact absurd below (Nat.lt_irrefl _)
  | above _ last directory =>
    have upwards := longer c.canonicalPath last
    rw [← directory] at upwards
    exact Nat.lt_asymm below upwards

end Configuration

namespace Builder

variable {builder : Builder} {s : Surroundings} {after : FileTree} {c : Configuration}

theorem Made.fileName_ne (made : builder.Made) : builder.options.fileName ≠ .text [] := by
  induction made with
  | make given =>
    rw [eq_of_make given]
    exact nofun
  | set _ given ih =>
    obtain ⟨-, update, updates, rfl⟩ := eq_of_set given
    cases updates with
    | name truthy =>
      rintro rfl
      cases truthy
    | _ => exact ih

theorem name_of_fileNameOf (made : builder.Made) (outcome : builder.Outcome s after c) {name : Text}
    (named : fileNameOf c.remoteLocator.toLocator builder.options.fileName = .ok name) :
    Path.IsName name ∨ name ≠ [] ∧ builder.options.fileName = .text name := by
  cases given : builder.options.fileName <;> rw [given] at named <;> cases named
  · exact .inl (made.isRead outcome).isName_lastSegment
  · refine .inr ⟨?_, rfl⟩
    rintro rfl
    exact made.fileName_ne given

theorem isName_fileName_of_outcome (made : builder.Made) (outcome : builder.Outcome s after c)
    (notRelative : Segment.isRelative c.fileName = false) : Path.IsName c.fileName := by
  obtain ⟨_, name, plan, -, named, chosen, -, fileName⟩ := outcome.plan
  have given : name ≠ [] := by
    rcases name_of_fileNameOf made outcome named with isName | ⟨nonempty, -⟩
    · exact isName.ne_nil
    · exact nonempty
  -- Sanitizing keeps the length of a name, and a digest is never empty.
  have nonempty : c.fileName ≠ [] := by
    rw [fileName, (LocalPath.choose_eq_ok chosen).2, LocalPath.sanitize_eq_map, Ne,
      List.map_eq_nil_iff]
    obtain full | digest := LocalPath.fileName_cases plan.strategy name
    · rw [full]
      exact given
    · rw [digest]
      exact (LocalPath.isName_digestName name).ne_nil
  obtain ⟨ne_here, ne_above⟩ := Segment.isRelative_eq_false_iff.1 notRelative
  exact ⟨nonempty, notMem_slash_fileName outcome, ne_here, ne_above⟩

/-- A file name that is relative has been set and kept, and there is a level for it to lead up
from. -/
theorem kept_of_isRelative (made : builder.Made) (outcome : builder.Outcome s after c)
    (relative : Segment.isRelative c.fileName = true) :
    builder.options.fileName = .text c.fileName ∧ (Path.names c.directory).dropLast ≠ [] := by
  obtain ⟨root, _, _, rooted, -⟩ := outcome.plan
  obtain ⟨slashes, above, strategy, name, -, -, -, directoryNames, directory, fileName, named⟩ :=
    directory_of_outcome made outcome rooted
  -- No digest is relative, so the path on the server has been kept with the name.
  rw [fileName] at relative
  obtain ⟨rfl, kept⟩ := LocalPath.strategy_of_isRelative relative
  rw [kept] at relative fileName
  constructor
  · rcases name_of_fileNameOf made outcome named with isName | ⟨-, given⟩
    · rw [Segment.isRelative_of_isName isName] at relative
      cases relative
    · rw [given, fileName]
  · rw [directory, Path.names_ofNames _ (Path.arePieces_of_isName directoryNames),
      LocalPath.dropLast_levels_full c.remoteLocator.path_ne_nil]
    exact List.append_ne_nil_of_right_ne_nil _ (List.cons_ne_nil _ _)

theorem withOneSlash_directory (made : builder.Made) (outcome : builder.Outcome s after c) :
    Path.withOneSlash c.directory = Path.ofNames 1 (Path.names c.directory) := by
  obtain ⟨slashes, leading, directory, names⟩ := directory_eq_ofNames made outcome
  have plain := Path.arePieces_of_isName names
  rw [directory, Path.withOneSlash_ofNames leading plain, Path.names_ofNames _ plain]

theorem inDirectory_of_outcome (made : builder.Made) (outcome : builder.Outcome s after c)
    (linkFree : after.LinkFree) (notRelative : Segment.isRelative c.fileName = false) :
    c.InDirectory := by
  have isName := isName_fileName_of_outcome made outcome notRelative
  refine Configuration.inDirectory_of_canonicalPath isName ?_
  rw [canonicalPath_of_outcome made outcome linkFree, FileTree.namesOf_of_isName _ isName,
    Path.ofNames_append_singleton 1 (names_directory_ne_nil outcome),
    withOneSlash_directory made outcome, LocalPath.fullPath]

theorem outOfDirectory_of_outcome (made : builder.Made) (outcome : builder.Outcome s after c)
    (linkFree : after.LinkFree) (relative : Segment.isRelative c.fileName = true) :
    c.OutOfDirectory := by
  have directory := withOneSlash_directory made outcome
  have canonical := canonicalPath_of_outcome made outcome linkFree
  have below := (kept_of_isRelative made outcome relative).2
  rcases Segment.isRelative_iff.1 relative with here | above
  · refine .here here ?_
    rw [canonical, here, directory]
    rfl
  · -- The level that the directory has lost is the last of its names.
    refine .above above ((Path.names c.directory).getLast (names_directory_ne_nil outcome)) ?_
    have parent : FileTree.namesOf (Path.names c.directory) ['.', '.'] =
        (Path.names c.directory).dropLast := rfl
    rw [canonical, above, parent, directory, LocalPath.fullPath,
      ← Path.ofNames_append_singleton 1 below, List.dropLast_concat_getLast]

/-- Without links, the file of a configuration lies in its directory exactly if its name is neither
`.` nor `..`, and then its siblings lie there, too. A name that is one of these has been set, and
has been kept as it is. -/
theorem canonicalPath_eq_fullPath_iff (made : builder.Made) (built : (builder.build s).1 = .ok c)
    (linkFree : (builder.build s).2.2.tree.LinkFree) :
    (c.canonicalPath = LocalPath.fullPath (Path.withOneSlash c.directory) c.fileName ↔
        Segment.isRelative c.fileName = false) ∧
      (Segment.isRelative c.fileName = false → c.InDirectory) ∧
      (Segment.isRelative c.fileName = true →
        builder.options.fileName = .text c.fileName ∧ c.OutOfDirectory) := by
  have outcome := outcome_of_build built
  have inside := inDirectory_of_outcome made outcome linkFree
  have outside := outOfDirectory_of_outcome made outcome linkFree
  refine ⟨⟨?_, fun notRelative => (inside notRelative).canonicalPath⟩, inside, ?_⟩
  · intro child
    exact Bool.eq_false_iff.2 fun relative => (outside relative).canonicalPath_ne child
  · intro relative
    exact ⟨(kept_of_isRelative made outcome relative).1, outside relative⟩

/-- A name that leads up is accepted. The file is then the directory of the identity, and its lock
lies outside. -/
theorem outOfDirectory_of_named_above :
    let builder : Builder := { ofIdentity "user42" with options := { fileName := .text ".." } }
    builder.Made ∧ ∃ c, (builder.build {}).1 = .ok c ∧ c.directory = "/data/user42/user42" ∧
      c.fileName = ".." ∧ c.lockPath = "/data/user42.lock" ∧ c.OutOfDirectory ∧
      c.canonicalPath ≠ LocalPath.fullPath (Path.withOneSlash c.directory) c.fileName := by
  intro builder
  have made : builder.Made := by
    have given : (Builder.make builder.owner (.text "realm://h/~/default") none
      builder.defaults).run {} = (.ok (ofIdentity "user42"), _) := rfl
    have accepted : (ofIdentity "user42").set (.name (.text "..")) = .ok builder := rfl
    exact .set (.make given) accepted
  let place (c : Configuration) : List Text := [c.directory, c.fileName, c.lockPath]
  have placed : (builder.build {}).1.toOption.map place =
      some (["/data/user42/user42", "..", "/data/user42.lock"] : List Text) := by
    decide +kernel
  obtain ⟨c, built, parts⟩ := Run.exists_ok_of_map placed
  have linkFree := linkFree_of_outcome (outcome_of_build built) rfl FileTree.linkFree_empty
  obtain ⟨child, -, outside⟩ := canonicalPath_eq_fullPath_iff made built linkFree
  simp only [place, List.cons.injEq, and_true] at parts
  obtain ⟨directory, fileName, lockPath⟩ := parts
  have relative : Segment.isRelative c.fileName = true := by
    rw [fileName]
    rfl
  exact ⟨made, c, built, directory, fileName, lockPath, (outside relative).2,
    fun same => Bool.false_ne_true ((child.1 same).symm.trans relative)⟩

end Builder
end SyncedFile
