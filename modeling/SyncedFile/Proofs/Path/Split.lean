import SyncedFile.Proofs.Path.Below

/-!
# Head and tail of a path

The split of a path leaves nothing out but slashes, so that the names of a path are those of its head
and then that of its tail.

* `names_append_slashes` — slashes at the end of a path add no name;
* `exists_split` — a path put together again from its head and tail.
-/

namespace SyncedFile.Path

theorem names_append_slashes (p : Text) (slashes : Nat) :
    names (p ++ List.replicate slashes '/') = names p := by
  induction slashes with
  | zero => rw [List.replicate_zero, List.append_nil]
  | succ slashes ih =>
    rw [List.replicate_succ', ← List.append_assoc, names_append_sep, ih]
    exact List.append_nil _

theorem exists_append_slashes (p : Text) :
    ∃ slashes, p = (p.reverse.dropWhile (· == '/')).reverse ++ List.replicate slashes '/' := by
  have whole : p.reverse.takeWhile (· == '/') ++ p.reverse.dropWhile (· == '/') = p.reverse :=
    List.takeWhile_append_dropWhile
  have slashes : p.reverse.takeWhile (· == '/') =
      List.replicate (p.reverse.takeWhile (· == '/')).length '/' :=
    List.eq_replicate_of_mem fun c mem => by simpa using List.mem_takeWhile_imp mem
  refine ⟨(p.reverse.takeWhile (· == '/')).length, ?_⟩
  rw [← List.reverse_replicate, ← slashes, ← List.reverse_append, whole, List.reverse_reverse]

theorem exists_split (p : Text) :
    ∃ slashes, p = (split p).1 ++ List.replicate slashes '/' ++ (split p).2 ∧
      '/' ∉ (split p).2 ∧ names p = names (split p).1 ++ names (split p).2 := by
  rw [split]
  rcases Text.cutLast_cases '/' p with ⟨absent, eq⟩ | ⟨before, name, whole, absent, eq⟩
  · rw [eq]
    exact ⟨0, rfl, absent, rfl⟩
  · have lead : p = before ++ ['/'] ++ name := by rw [whole, List.append_assoc]; rfl
    have found : names p = names (before ++ ['/']) ++ names name := by
      rw [whole, names_append_sep, names_append_sep]
      simp [names, Text.splitOn]
    rw [eq]
    simp only
    split
    · exact ⟨0, by rw [List.replicate_zero, List.append_nil]; exact lead, absent, found⟩
    · -- The slashes that the head ends in are left off.
      obtain ⟨slashes, bare⟩ := exists_append_slashes (before ++ ['/'])
      rw [bare, names_append_slashes] at found
      exact ⟨slashes, by rw [← bare]; exact lead, absent, found⟩

end SyncedFile.Path
