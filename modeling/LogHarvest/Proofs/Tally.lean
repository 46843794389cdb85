import LogHarvest.Proofs.Number.Dyadic
import LogHarvest.Tally

/-!
# Tallies that add up

A tally adds up when each of its lines is counted once more, as malformed, unmatched or matched. The
share of matched lines of such a tally is a percentage, before it is rounded and after.
-/

namespace LogHarvest.Tally

/-- The counts of two tallies together. -/
def plus (t u : Tally) : Tally :=
  ⟨t.lines + u.lines, t.malformed + u.malformed, t.unmatched + u.unmatched, t.matched + u.matched⟩

@[simp] theorem zero_plus (t : Tally) : zero.plus t = t := by
  simp [plus, zero]

theorem plus_assoc (t u v : Tally) : (t.plus u).plus v = t.plus (u.plus v) := by
  simp [plus, add_assoc]

/-- Every line is malformed, unmatched or matched, and nothing has been counted off. -/
structure Balanced (t : Tally) : Prop where
  lines_eq : t.lines = t.malformed + t.unmatched + t.matched
  malformed_nonneg : 0 ≤ t.malformed
  unmatched_nonneg : 0 ≤ t.unmatched
  matched_nonneg : 0 ≤ t.matched

/-- The quotient of two numbers, if there is one. -/
def quotient? (num den : Int) : Option ℚ := if den = 0 then none else some (num / den)

/-- The share of the log lines that were matched, in percent and not rounded; zero if there are
none. -/
def exactRate? (t : Tally) : Option ℚ :=
  if t.logLines > 0 then (quotient? t.matched t.logLines).map (· * 100) else some 0

variable {t : Tally}

theorem Balanced.matched_le_logLines (h : t.Balanced) : t.matched ≤ t.logLines := by
  have := h.lines_eq
  have := h.unmatched_nonneg
  rw [logLines]
  omega

/-- A tally that adds up has an exact rate, and it is a percentage. -/
theorem Balanced.exists_exactRate? (h : t.Balanced) :
    ∃ q, t.exactRate? = some q ∧ 0 ≤ q ∧ q ≤ 100 := by
  by_cases hlines : t.logLines > 0
  · have hpos : (0 : ℚ) < t.logLines := by exact_mod_cast hlines
    have hmatched : (0 : ℚ) ≤ t.matched := by exact_mod_cast h.matched_nonneg
    have hle : (t.matched : ℚ) ≤ t.logLines := by exact_mod_cast h.matched_le_logLines
    refine ⟨t.matched / t.logLines * 100, ?_, by positivity, ?_⟩
    · rw [exactRate?, if_pos hlines, quotient?, if_neg (by omega)]
      rfl
    · have hshare : (t.matched : ℚ) / t.logLines ≤ 1 := (div_le_one hpos).2 hle
      linarith
  · exact ⟨0, if_neg hlines, le_refl 0, by norm_num⟩

/-- Rounding leaves it a percentage. -/
theorem Balanced.matchRate_mem (h : t.Balanced) :
    0 ≤ t.matchRate.value ∧ t.matchRate.value ≤ 100 := by
  unfold matchRate
  split_ifs with hlines
  · have hle := h.matched_le_logLines
    have hpos : 0 < t.logLines.toNat := by omega
    have hbounds := Dyadic.value_scale_ofQuotient_mem 100 h.matched_nonneg hpos (by omega)
      (by norm_num)
    exact_mod_cast hbounds
  · simp [Dyadic.zero, Dyadic.value]

end LogHarvest.Tally
