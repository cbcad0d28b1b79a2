import SyncedFile.Proofs.LocalPath.Layout

/-!
# File names on disk

A file name is sanitized by replacing one forbidden character after the other in the whole of it.
This comes to a map of its characters, so that it does not matter in which order they are taken, and
nothing that has been put in is replaced again. A digest has nothing to replace.

* `replaceEach_congr` — the order of the characters is free;
* `ActsPointwise`, `sanitize_pointwise` — what sanitizing does to every name and to every digest.
-/

namespace SyncedFile.LocalPath

/-- Only which characters are replaced matters, not when, nor how often. -/
theorem replaceEach_congr {chars others : List Char} (same : ∀ c, c ∈ chars ↔ c ∈ others)
    (name : Text) : replaceEach chars name = replaceEach others name := by
  rw [replaceEach_eq_map, replaceEach_eq_map]
  apply List.map_congr_left
  intro c _
  simp only [same c]

theorem replaceEach_append (chars : List Char) (name other : Text) :
    replaceEach chars (name ++ other) = replaceEach chars name ++ replaceEach chars other := by
  simp only [replaceEach_eq_map, List.map_append]

theorem sanitize_sanitize (name : Text) : sanitize (sanitize name) = sanitize name := by
  apply sanitize_eq_self
  intro c mem
  exact notMem_forbidden_of_mem_sanitize mem

theorem sanitize_digestName (name : Text) : sanitize (digestName name) = digestName name :=
  Segment.sanitize_of_isSegment (isSegment_digestName name)

/-- Sanitizing a name changes each of its characters by itself, whatever stands around it. -/
structure ActsPointwise (name : Text) : Prop where
  length_eq : (sanitize name).length = name.length
  byteLength_eq : Text.byteLength (sanitize name) = Text.byteLength name
  getElem?_eq : ∀ k : Nat, (sanitize name)[k]? = name[k]?.map fun c =>
    if c ∈ ['<', '>', ':', '"', '/', '\\', '|', '?', '*'] then '_' else c
  again : sanitize (sanitize name) = sanitize name
  append : ∀ other, sanitize (name ++ other) = sanitize name ++ sanitize other
  anyOrder : ∀ order : List Char, order.Perm forbidden → replaceEach order name = sanitize name

/-- Every name is sanitized character by character. Its digest has thirty-two upper-case digits, and
stays as it is. -/
theorem sanitize_pointwise (name : Text) :
    ActsPointwise name ∧ (digestName name).length = 32 ∧
      (∀ c ∈ digestName name, c ∈ "0123456789ABCDEF".toList) ∧
      sanitize (digestName name) = digestName name := by
  refine ⟨{
    length_eq := length_sanitize name
    byteLength_eq := byteLength_sanitize name
    getElem?_eq := ?_
    again := sanitize_sanitize name
    append := replaceEach_append forbidden name
    anyOrder := ?_ }, ?_, ?_, sanitize_digestName name⟩
  · intro k
    rw [sanitize_eq_map, List.getElem?_map]
    rfl
  · intro order same
    exact replaceEach_congr (fun _ => same.mem_iff) name
  · exact Digest.Md5.length_hex name
  · intro c mem
    exact Digest.Md5.hexDigit_of_mem_hex mem

/-- The characters in the other order, and a text that holds the replacement itself. -/
example : replaceEach forbidden.reverse "a<_>c:d\"e/f\\g|h?i*j".toList =
    "a___c_d_e_f_g_h_i_j".toList := by decide

end SyncedFile.LocalPath
