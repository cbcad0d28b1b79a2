import SyncedFile.Proofs.Builder.Isolation

/-!
# Files and their siblings

Beside its file a storage engine keeps others, under the name of the file with a suffix. The
suffixes that are refused in a raw identifier are not these, so that a file can be placed where
another file has a sibling. It happens in one way only: in the same directory, where the last segment
of a locator is the name of the other file with the suffix.

* `Configuration.Placed`, `Builder.placed_of_build` — the place of a file without a name of its own;
* `Configuration.Shadows` — a file in place of a sibling;
* `Builder.canonicalPath_eq_sibling_iff` — when the place of a file is that of a sibling.
-/

namespace SyncedFile

theorem Path.ofNames_append (slashes : Nat) (pieces : List Text) (name suffix : Text) :
    ofNames slashes (pieces ++ [name]) ++ suffix =
      ofNames slashes (pieces ++ [name ++ suffix]) := by
  simp only [ofNames, Text.joinWith_append_singleton, List.append_assoc]

namespace Configuration

/-- The place of a file whose name comes from its locator: it leads along the names of its
directory, and its own name is the last segment or the digest of it. -/
structure Placed (c : Configuration) : Prop where
  directory : ∀ name ∈ Path.names c.directory, Path.IsName name
  fileName : Path.IsName c.fileName
  segment : c.fileName = c.remoteLocator.lastSegment ∨
    c.fileName = LocalPath.digestName c.remoteLocator.lastSegment
  canonicalPath : c.canonicalPath = Path.ofNames 1 (Path.names c.directory ++ [c.fileName])

/-- The file stands in place of the sibling that another file has under a suffix: the last segment
of its locator is the name of the other file with the suffix. -/
structure Shadows (c d : Configuration) (suffix : Text) : Prop where
  directory : Path.names c.directory = Path.names d.directory
  fileName : c.fileName = c.remoteLocator.lastSegment
  segment : c.remoteLocator.lastSegment = d.fileName ++ suffix

variable {c d : Configuration}

/-- A suffix with a dot cannot come from a digest. -/
theorem canonicalPath_eq_append_iff (placed : c.Placed) (otherPlaced : d.Placed) {suffix : Text}
    (dot : '.' ∈ suffix) (noSlash : '/' ∉ suffix) :
    c.canonicalPath = d.canonicalPath ++ suffix ↔ c.Shadows d suffix := by
  have left : Path.ArePieces (Path.names c.directory ++ [c.fileName]) :=
    Path.arePieces_of_isName (List.forall_mem_append.2
      ⟨placed.directory, List.forall_mem_singleton.2 placed.fileName⟩)
  have right : Path.ArePieces (Path.names d.directory ++ [d.fileName ++ suffix]) := by
    refine List.forall_mem_append.2 ⟨Path.arePieces_of_isName otherPlaced.directory,
      List.forall_mem_singleton.2 ⟨?_, ?_⟩⟩
    · exact List.append_ne_nil_of_left_ne_nil otherPlaced.fileName.ne_nil _
    · exact fun mem => (List.mem_append.1 mem).elim otherPlaced.fileName.notMem_slash noSlash
  rw [placed.canonicalPath, otherPlaced.canonicalPath, Path.ofNames_append,
    Path.ofNames_inj left right]
  constructor
  · intro same
    obtain ⟨directory, last⟩ := List.append_inj' same rfl
    have name : c.fileName = d.fileName ++ suffix := List.singleton_inj.1 last
    obtain kept | digest := placed.segment
    · exact ⟨directory, kept, kept ▸ name⟩
    · -- The name ends in the suffix and has a dot, which a digest has not.
      refine absurd ?_ (LocalPath.notMem_dot_digestName c.remoteLocator.lastSegment)
      rw [← digest, name]
      exact List.mem_append_right _ dot
  · rintro ⟨directory, fileName, segment⟩
    rw [directory, fileName, segment]

end Configuration

namespace Builder

variable {builder : Builder} {s : Surroundings} {c : Configuration}

theorem placed_of_build (made : builder.Made) (unnamed : builder.options.fileName = .null)
    (built : (builder.build s).1 = .ok c) (linkFree : (builder.build s).2.2.tree.LinkFree) :
    c.Placed := by
  have outcome := outcome_of_build built
  obtain ⟨strategy, kept⟩ := fileName_of_unnamed made outcome unnamed
  have isName : Path.IsName c.fileName := by
    rw [kept]
    exact LocalPath.isName_fileName (made.isRead outcome).isName_lastSegment strategy
  refine ⟨isName_of_mem_directory made outcome, isName, ?_, ?_⟩
  · rw [kept]
    obtain rfl | digest := LocalPath.fileName_cases strategy c.remoteLocator.lastSegment
    · exact .inl rfl
    · exact .inr digest
  · rw [canonicalPath_of_outcome made outcome linkFree, FileTree.namesOf_of_isName _ isName]

/-- Files that are named by their locators, in trees without links: one of them is placed where the
other has its lock, or its directory for management, exactly if both are in the same directory and
the last segment of the one locator is the name of the other file with the suffix of that
sibling. -/
theorem canonicalPath_eq_sibling_iff {first second : Builder} (firstMade : first.Made)
    (secondMade : second.Made) (firstUnnamed : first.options.fileName = .null)
    (secondUnnamed : second.options.fileName = .null) {s t : Surroundings} {c d : Configuration}
    (firstBuilt : (first.build s).1 = .ok c) (secondBuilt : (second.build t).1 = .ok d)
    (firstTree : (first.build s).2.2.tree.LinkFree)
    (secondTree : (second.build t).2.2.tree.LinkFree) :
    (c.canonicalPath = d.lockPath ↔ c.Shadows d ".lock") ∧
      (c.canonicalPath = d.managementPath ↔ c.Shadows d ".management") := by
  have firstPlaced := placed_of_build firstMade firstUnnamed firstBuilt firstTree
  have secondPlaced := placed_of_build secondMade secondUnnamed secondBuilt secondTree
  exact ⟨Configuration.canonicalPath_eq_append_iff firstPlaced secondPlaced (by decide) (by decide),
    Configuration.canonicalPath_eq_append_iff firstPlaced secondPlaced (by decide) (by decide)⟩

/-- A builder for a file on the host, for an identity. -/
def ofSegment (identity segment : Text) : Builder :=
  { ofIdentity identity with
    locator := some (Locator.onHost [Segment.placeholder, segment] (List.cons_ne_nil _ _)) }

/-- The raw identifier of one file is accepted although its file is where another has its lock. -/
theorem canonicalPath_eq_lockPath_of_default :
    let first := ofSegment "user42" "default.lock"
    let second := ofSegment "user42" "default"
    first.Made ∧ second.Made ∧
      ∃ c d, (first.build {}).1 = .ok c ∧ (second.build {}).1 = .ok d ∧
        c.canonicalPath = d.lockPath ∧ d.canonicalPath = "/data/user42/user42/default" := by
  intro first second
  have firstMade : first.Made := by
    have given : (Builder.make first.owner (.text "realm://h/~/default.lock") none
      first.defaults).run {} = (.ok first, _) := rfl
    exact .make given
  have secondMade : second.Made := by
    have given : (Builder.make second.owner (.text "realm://h/~/default") none
      second.defaults).run {} = (.ok second, _) := rfl
    exact .make given
  let place (c : Configuration) : List Text :=
    [c.directory, c.fileName, c.remoteLocator.lastSegment, c.canonicalPath]
  have firstPlace : (first.build {}).1.toOption.map place = some (["/data/user42/user42",
      "default.lock", "default.lock", "/data/user42/user42/default.lock"] : List Text) := by
    decide +kernel
  have secondPlace : (second.build {}).1.toOption.map place = some (["/data/user42/user42",
      "default", "default", "/data/user42/user42/default"] : List Text) := by
    decide +kernel
  obtain ⟨c, firstBuilt, firstParts⟩ := Run.exists_ok_of_map firstPlace
  obtain ⟨d, secondBuilt, secondParts⟩ := Run.exists_ok_of_map secondPlace
  have firstTree := linkFree_of_outcome (outcome_of_build firstBuilt) rfl FileTree.linkFree_empty
  have secondTree := linkFree_of_outcome (outcome_of_build secondBuilt) rfl FileTree.linkFree_empty
  have siblings := canonicalPath_eq_sibling_iff firstMade secondMade rfl rfl firstBuilt secondBuilt
    firstTree secondTree
  simp only [place, List.cons.injEq] at firstParts secondParts
  obtain ⟨firstDirectory, firstName, segment, -⟩ := firstParts
  obtain ⟨secondDirectory, secondName, -, canonical, -⟩ := secondParts
  have shadows : c.Shadows d ".lock" := by
    refine ⟨?_, firstName.trans segment.symm, ?_⟩
    · rw [firstDirectory, secondDirectory]
    · rw [segment, secondName]
      rfl
  exact ⟨firstMade, secondMade, c, d, firstBuilt, secondBuilt, siblings.1.2 shadows, canonical⟩

end Builder
end SyncedFile
