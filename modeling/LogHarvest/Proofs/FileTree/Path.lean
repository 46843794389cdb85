import LogHarvest.FileTree.Basic
import LogHarvest.Proofs.Text.Fields

/-!
# What a path leads to

A path is located by its names alone and opened by going through the tree, but what it opens is
always what it locates. Tidying a path changes neither.
-/

namespace LogHarvest

namespace Path

theorem slash_notMem_of_mem_parts {path part : Text} (h : part ∈ parts path) :
    ('/' : Code) ∉ part := by
  rw [parts] at h
  exact Text.sep_notMem_of_mem_splitOn (List.mem_filter.1 h).1

/-- The names of a path joined again lead where the path leads. -/
theorem follow_splitOn_ofParts (place : List Text) (path : Text) :
    follow place (Text.splitOn '/' (ofParts (parts path))) = follow place (parts path) := by
  by_cases hparts : parts path = []
  · rw [hparts]
    rfl
  · rw [ofParts, Text.splitOn_join hparts fun part hpart => slash_notMem_of_mem_parts hpart]

/-- The path of what is below a directory starts with that of the directory and a slash. -/
theorem ofParts_append {dir below : List Text} (hdir : dir ≠ []) (hbelow : below ≠ []) :
    ofParts (dir ++ below) = ofParts dir ++ [('/' : Code)] ++ ofParts below :=
  Text.join_append _ hdir hbelow

theorem isAbsolute_ofParts (path : Text) : isAbsolute (ofParts (parts path)) = false := by
  cases hparts : parts path with
  | nil => rfl
  | cons part rest =>
      have hpart : part ∈ parts path := by simp [hparts]
      have hslash := slash_notMem_of_mem_parts hpart
      have hidle : part ≠ [] := by
        rintro rfl
        simp [parts] at hpart
      obtain ⟨c, codes, rfl⟩ := List.exists_cons_of_ne_nil hidle
      have hc : c ≠ '/' := Ne.symm (List.ne_and_not_mem_of_not_mem_cons hslash).1
      cases rest <;> simp [isAbsolute, ofParts, Text.join, hc]

theorem isAbsolute_tidy (path : Text) : isAbsolute (tidy path) = isAbsolute path := by
  unfold tidy
  dsimp only
  split
  · next habsolute => rw [habsolute]; rfl
  · next hrelative =>
    rw [Bool.not_eq_true] at hrelative
    split
    · rw [hrelative]; rfl
    · rw [hrelative, isAbsolute_ofParts]

/-- A tidied path leads where the path leads. -/
theorem follow_splitOn_tidy (place : List Text) (path : Text) :
    follow place (Text.splitOn '/' (tidy path)) = follow place (parts path) := by
  unfold tidy
  dsimp only
  split
  · have hslash : Text.splitOn '/' (('/' : Code) :: ofParts (parts path)) =
        [] :: Text.splitOn '/' (ofParts (parts path)) := by
      rw [Text.splitOn, if_pos rfl]
    rw [hslash]
    exact follow_splitOn_ofParts place path
  · split
    · next hempty =>
      rw [← follow_splitOn_ofParts, List.isEmpty_iff.1 hempty]
      rfl
    · exact follow_splitOn_ofParts place path

end Path

namespace FileTree

variable {tree : FileTree}

theorem eq_follow_of_enter {place parts found : List Text} (h : tree.enter place parts = .ok found) :
    found = Path.follow place parts := by
  induction parts generalizing place with
  | nil => exact (Except.ok.inj h).symm
  | cons part rest ih =>
      rw [enter] at h
      split at h
      · exact ih h
      · simp at h
      · simp at h

/-- What a path opens is what it locates. -/
theorem eq_locate_of_opened {path : Text} {place : List Text}
    (h : tree.opened (Path.tidy path) = .ok place) : place = tree.locate path := by
  unfold opened at h
  split at h
  · simp at h
  · rw [eq_follow_of_enter h, Path.follow_splitOn_tidy, locate, start, start, Path.isAbsolute_tidy]

end FileTree

end LogHarvest
