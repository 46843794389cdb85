import LogHarvest.Proofs.Store
import LogHarvest.Reading

/-!
# The statement that serves a message

The statements of a class are tried in the order in which they were added, so a message that
one of them matches is read by it or by one that was added before it.
-/

namespace LogHarvest

/-- A statement matches a message when its pattern takes the whole of it. -/
def Statement.Matches (s : Statement) (message : Text) : Prop :=
  (s.pattern.fullMatch? message).isSome

namespace Reading

variable {message : Text} {s : Statement}

theorem ofCandidates_cons_of_matches (h : s.Matches message) (rest : List Statement) :
    ∃ groups, s.pattern.fullMatch? message = some groups ∧
      ofCandidates message (s :: rest) = ofMatch message s groups := by
  obtain ⟨groups, hgroups⟩ := Option.isSome_iff_exists.1 h
  exact ⟨groups, hgroups, by rw [ofCandidates, hgroups]⟩

theorem ofCandidates_cons_of_not_matches (h : ¬s.Matches message) (rest : List Statement) :
    ofCandidates message (s :: rest) = ofCandidates message rest := by
  rw [ofCandidates, Option.not_isSome_iff_eq_none.1 h]

/-- Either none of some statements matches a message, or a first one does and reads it. -/
theorem ofCandidates_cases (message : Text) (candidates : List Statement) :
    ((∀ s ∈ candidates, ¬s.Matches message) ∧ ofCandidates message candidates = bare message) ∨
    ∃ before s later groups, candidates = before ++ s :: later ∧
      (∀ other ∈ before, ¬other.Matches message) ∧
      s.pattern.fullMatch? message = some groups ∧
      ofCandidates message candidates = ofMatch message s groups := by
  induction candidates with
  | nil => exact .inl ⟨by simp, rfl⟩
  | cons s rest ih =>
      by_cases hs : s.Matches message
      · obtain ⟨groups, hgroups, hr⟩ := ofCandidates_cons_of_matches hs rest
        exact .inr ⟨[], s, rest, groups, rfl, by simp, hgroups, hr⟩
      · rw [ofCandidates_cons_of_not_matches hs]
        obtain ⟨hnone, hr⟩ | ⟨before, first, later, groups, rfl, hbefore, hgroups, hr⟩ := ih
        · exact .inl ⟨List.forall_mem_cons.2 ⟨hs, hnone⟩, hr⟩
        · exact .inr ⟨s :: before, first, later, groups, rfl,
            List.forall_mem_cons.2 ⟨hs, hbefore⟩, hgroups, hr⟩

/-- A message that a statement matches is read by it or by an earlier one. -/
theorem exists_ofCandidates_eq_ofMatch (h : s.Matches message) (before later : List Statement) :
    ∃ first ∈ before ++ [s], ∃ groups, first.pattern.fullMatch? message = some groups ∧
      ofCandidates message (before ++ s :: later) = ofMatch message first groups := by
  induction before with
  | nil =>
      obtain ⟨groups, hgroups, hr⟩ := ofCandidates_cons_of_matches h later
      exact ⟨s, by simp, groups, hgroups, hr⟩
  | cons earlier before ih =>
      by_cases he : earlier.Matches message
      · obtain ⟨groups, hgroups, hr⟩ := ofCandidates_cons_of_matches he (before ++ s :: later)
        exact ⟨earlier, by simp, groups, hgroups, hr⟩
      · obtain ⟨first, hfirst, groups, hgroups, hr⟩ := ih
        refine ⟨first, List.mem_cons_of_mem earlier hfirst, groups, hgroups, ?_⟩
        rw [List.cons_append, ofCandidates_cons_of_not_matches he, hr]

theorem isMatched_ofMatch (message : Text) (s : Statement) (groups : List (Option Text)) :
    (ofMatch message s groups).isMatched = true := rfl

theorem isMatched_ofCandidates_singleton (message : Text) (s : Statement) :
    (ofCandidates message [s]).isMatched = true ↔ s.Matches message := by
  by_cases h : s.Matches message
  · obtain ⟨groups, -, hr⟩ := ofCandidates_cons_of_matches h []
    simp [hr, isMatched_ofMatch, h]
  · rw [ofCandidates_cons_of_not_matches h]
    simp [ofCandidates, bare, isMatched, h]

end Reading

end LogHarvest
