import LogHarvest.Proofs.Pattern.Ways

/-!
# One text for each group

Matching marks where groups begin and end, and goes back to earlier marks when it backtracks, but
it never adds a mark or drops one. So a match has one capture for each group of the pattern,
whatever the pattern is.
-/

namespace LogHarvest.Pattern

namespace Captures

variable (caps : Captures) (number offset : Nat)

@[simp] theorem length_start (count : Nat) : (start count).length = count := List.length_replicate

@[simp] theorem length_enter : (caps.enter number offset).length = caps.length :=
  List.length_modify ..

@[simp] theorem length_leave : (caps.leave number offset).length = caps.length :=
  List.length_modify ..

end Captures

namespace Ways

/-- Every way has as many marks as there were before it. -/
def KeepsGroups (ways : Ways) : Prop :=
  ∀ cur caps, ∀ w ∈ ways cur caps, w.2.length = caps.length

variable {ways : Ways}

theorem keepsGroups_stay : stay.KeepsGroups := by
  intro cur caps w hw
  obtain rfl := List.mem_singleton.1 hw
  rfl

theorem KeepsGroups.andThen {first second : Ways} (h₁ : first.KeepsGroups)
    (h₂ : second.KeepsGroups) : (first.andThen second).KeepsGroups := by
  intro cur caps w hw
  obtain ⟨v, hv, hw⟩ := List.mem_flatMap.1 hw
  exact (h₂ v.1 v.2 w hw).trans (h₁ cur caps v hv)

theorem KeepsGroups.times (h : ways.KeepsGroups) (count : Nat) :
    (ways.times count).KeepsGroups := by
  induction count with
  | zero => exact keepsGroups_stay
  | succ count ih => exact h.andThen ih

theorem KeepsGroups.greedily (h : ways.KeepsGroups) (fuel : Nat) (previous : Option Nat) :
    (ways.greedily fuel previous).KeepsGroups := by
  induction fuel generalizing previous with
  | zero => exact keepsGroups_stay
  | succ fuel ih =>
      intro cur caps w hw
      rw [Ways.greedily] at hw
      split at hw
      · exact keepsGroups_stay cur caps w hw
      · obtain hmore | hstay := List.mem_append.1 hw
        · exact h.andThen (ih (some cur.offset)) cur caps w hmore
        · exact keepsGroups_stay cur caps w hstay

theorem KeepsGroups.lazily (h : ways.KeepsGroups) (fuel : Nat) (previous : Option Nat) :
    (ways.lazily fuel previous).KeepsGroups := by
  induction fuel generalizing previous with
  | zero => exact keepsGroups_stay
  | succ fuel ih =>
      intro cur caps w hw
      rw [Ways.lazily] at hw
      obtain rfl | hmore := List.mem_cons.1 hw
      · rfl
      · split at hmore
        · simp at hmore
        · exact h.andThen (ih (some cur.offset)) cur caps w hmore

theorem KeepsGroups.committed (h : ways.KeepsGroups) : ways.committed.KeepsGroups := by
  intro cur caps w hw
  exact h cur caps w (List.mem_of_mem_head? (Option.mem_toList.1 hw))

theorem KeepsGroups.possessively (h : ways.KeepsGroups) (fuel : Nat) :
    (ways.possessively fuel).KeepsGroups := by
  induction fuel with
  | zero => exact keepsGroups_stay
  | succ fuel ih =>
      intro cur caps w hw
      rw [Ways.possessively] at hw
      split at hw
      · next v hv =>
        have hfirst : v.2.length = caps.length := h cur caps v (List.mem_of_mem_head? hv)
        split at hw
        · obtain rfl := List.mem_singleton.1 hw
          exact hfirst
        · exact (ih v.1 v.2 w hw).trans hfirst
      · exact keepsGroups_stay cur caps w hw

theorem KeepsGroups.repeated (h : ways.KeepsGroups) (greed : Greed) (least : Nat)
    (most : Option Nat) : (ways.repeated greed least most).KeepsGroups := by
  unfold Ways.repeated
  cases greed with
  | greedy =>
      refine (h.times least).andThen fun cur => ?_
      exact h.greedily _ none cur
  | lazily =>
      refine (h.times least).andThen fun cur => ?_
      exact h.lazily _ none cur
  | possessive =>
      refine ((h.committed.times least).andThen fun cur => ?_).committed
      exact h.possessively _ cur

theorem keepsGroups_again (fold : Fold) (text : Text) : (Ways.again fold text).KeepsGroups := by
  induction text with
  | nil => exact keepsGroups_stay
  | cons a text ih =>
      intro cur caps w hw
      rw [Ways.again] at hw
      split at hw
      · next next _ => exact ih next caps w hw
      · simp at hw

end Ways

namespace Expr

theorem keepsGroups_ways (e : Expr) : e.ways.KeepsGroups := by
  induction e with
  | empty => exact Ways.keepsGroups_stay
  | fail =>
      intro cur caps w hw
      simp [ways] at hw
  | one test =>
      intro cur caps w hw
      rw [ways] at hw
      split at hw
      · next next _ => exact Ways.keepsGroups_stay next caps w hw
      · simp at hw
  | anchor a =>
      intro cur caps w hw
      rw [ways] at hw
      split at hw
      · exact Ways.keepsGroups_stay cur caps w hw
      · simp at hw
  | seq first second h₁ h₂ => exact h₁.andThen h₂
  | alt first second h₁ h₂ =>
      intro cur caps w hw
      obtain hw | hw := List.mem_append.1 hw
      · exact h₁ cur caps w hw
      · exact h₂ cur caps w hw
  | group number body h =>
      intro cur caps w hw
      obtain ⟨v, hv, rfl⟩ := List.mem_map.1 hw
      rw [Captures.length_leave, h cur _ v hv, Captures.length_enter]
  | many greed least most body h => exact h.repeated greed least most
  | atomic body h => exact h.committed
  | ahead negated body h =>
      intro cur caps w hw
      rw [ways] at hw
      split at hw
      · next v hv =>
        have hfirst : v.2.length = caps.length := h cur caps v (List.mem_of_mem_head? hv)
        cases negated with
        | true => simp at hw
        | false =>
            obtain rfl := List.mem_singleton.1 hw
            exact hfirst
      · cases negated with
        | true => exact Ways.keepsGroups_stay cur caps w hw
        | false => simp at hw
  | behind negated width body h =>
      intro cur caps w hw
      rw [ways] at hw
      split at hw
      · next v hv =>
        obtain ⟨back, -, hv⟩ := Option.bind_eq_some_iff.1 hv
        have hfirst : v.2.length = caps.length := h back caps v (List.mem_of_mem_head? hv)
        cases negated with
        | true => simp at hw
        | false =>
            obtain rfl := List.mem_singleton.1 hw
            exact hfirst
      · cases negated with
        | true => exact Ways.keepsGroups_stay cur caps w hw
        | false => simp at hw
  | again fold number =>
      intro cur caps w hw
      rw [ways] at hw
      split at hw
      · next text _ => exact Ways.keepsGroups_again fold text cur caps w hw
      · simp at hw
  | ifGroup number yes no h₁ h₂ =>
      intro cur caps w hw
      rw [ways] at hw
      split at hw
      · exact h₁ cur caps w hw
      · exact h₂ cur caps w hw

theorem length_of_fullMatch? {e : Expr} {groupCount : Nat} {t : Text}
    {groups : List (Option Text)} (h : e.fullMatch? groupCount t = some groups) :
    groups.length = groupCount := by
  rw [fullMatch?_eq_find?] at h
  obtain ⟨w, hw, rfl⟩ := Option.map_eq_some_iff.1 h
  rw [List.length_map, keepsGroups_ways e _ _ w (List.mem_of_find?_eq_some hw),
    Captures.length_start]

end Expr

/-- A match has one capture for each group of the pattern. -/
theorem length_of_fullMatch? {p : Pattern} {t : Text} {groups : List (Option Text)}
    (h : p.fullMatch? t = some groups) : groups.length = p.groupCount :=
  Expr.length_of_fullMatch? h

end LogHarvest.Pattern
