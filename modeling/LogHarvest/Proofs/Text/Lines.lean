import LogHarvest.Proofs.Text.Fields
import LogHarvest.Text.Lines
import Mathlib.Tactic.SplitIfs

/-!
# Lines that are written and read again

Lines that hold no terminator of their own are found again when each has been ended by a line
feed. The lines of any text are of this kind.
-/

namespace LogHarvest.Text

/-- A line without a terminator inside. -/
structure IsLine (t : Text) : Prop where
  noReturn : ('\r' : Code) ∉ t
  noFeed : ('\n' : Code) ∉ t

instance : DecidablePred IsLine := fun t =>
  decidable_of_iff (('\r' : Code) ∉ t ∧ ('\n' : Code) ∉ t)
    ⟨fun h => ⟨h.1, h.2⟩, fun h => ⟨h.noReturn, h.noFeed⟩⟩

theorem normalizeAfter_of_notMem {t : Text} (h : ('\r' : Code) ∉ t) :
    normalizeAfter false t = t := by
  induction t with
  | nil => rfl
  | cons c rest ih =>
      obtain ⟨hc, hrest⟩ := List.ne_and_not_mem_of_not_mem_cons h
      rw [normalizeAfter, if_neg (Ne.symm hc), if_neg (by simp), ih hrest]

theorem unlines_cons (line : Text) (lines : List Text) :
    unlines (line :: lines) = line ++ ('\n' : Code) :: unlines lines := by
  simp [unlines]

theorem return_notMem_unlines {ls : List Text} (h : ∀ line ∈ ls, IsLine line) :
    ('\r' : Code) ∉ unlines ls := by
  have hfeed : ('\r' : Code) ≠ '\n' := by decide
  simp only [unlines, List.mem_flatMap, List.mem_append, List.mem_singleton, hfeed, or_false,
    not_exists, not_and]
  exact fun line hline => (h line hline).noReturn

theorem splitOn_unlines {ls : List Text} (h : ∀ line ∈ ls, IsLine line) :
    splitOn '\n' (unlines ls) = ls ++ [[]] := by
  induction ls with
  | nil => rfl
  | cons line ls ih =>
      obtain ⟨hline, hls⟩ := List.forall_mem_cons.1 h
      rw [unlines_cons, splitOn_append hline.noFeed, ih hls, List.cons_append]

theorem lines_unlines {ls : List Text} (h : ∀ line ∈ ls, IsLine line) :
    lines (unlines ls) = ls := by
  rw [lines, normalizeNewlines, normalizeAfter_of_notMem (return_notMem_unlines h),
    splitOn_unlines h]
  simp

/-! ### Any text -/

theorem return_notMem_normalizeAfter (returned : Bool) (t : Text) :
    ('\r' : Code) ∉ normalizeAfter returned t := by
  induction t generalizing returned with
  | nil => simp [normalizeAfter]
  | cons c rest ih =>
      rw [normalizeAfter]
      split_ifs with hreturn hfeed
      · exact List.not_mem_cons_of_ne_of_not_mem (by decide) (ih true)
      · exact ih false
      · exact List.not_mem_cons_of_ne_of_not_mem (Ne.symm hreturn) (ih false)

theorem mem_normalizeAfter {returned : Bool} {t : Text} {c : Code}
    (h : c ∈ normalizeAfter returned t) : c ∈ t ∨ c = '\n' := by
  induction t generalizing returned with
  | nil => simp [normalizeAfter] at h
  | cons d rest ih =>
      rw [normalizeAfter] at h
      split at h
      · obtain rfl | h := List.mem_cons.1 h
        · exact .inr rfl
        · exact (ih h).imp_left (List.mem_cons_of_mem d)
      · split at h
        · exact (ih h).imp_left (List.mem_cons_of_mem d)
        · obtain rfl | h := List.mem_cons.1 h
          · exact .inl List.mem_cons_self
          · exact (ih h).imp_left (List.mem_cons_of_mem d)

theorem mem_splitOn_of_mem_lines {t line : Text} (h : line ∈ lines t) :
    line ∈ splitOn '\n' (normalizeNewlines t) := by
  rw [lines] at h
  split at h
  · exact List.dropLast_subset _ h
  · exact h

/-- No line of a text holds a terminator. -/
theorem isLine_of_mem_lines {t line : Text} (h : line ∈ lines t) : line.IsLine := by
  have hmem := mem_splitOn_of_mem_lines h
  exact ⟨fun hc => return_notMem_normalizeAfter false t (mem_of_mem_splitOn hmem hc),
    sep_notMem_of_mem_splitOn hmem⟩

theorem mem_of_mem_lines {t line : Text} {c : Code} (h : line ∈ lines t) (hc : c ∈ line) :
    c ∈ t ∨ c = '\n' :=
  mem_normalizeAfter (mem_of_mem_splitOn (mem_splitOn_of_mem_lines h) hc)

end LogHarvest.Text
