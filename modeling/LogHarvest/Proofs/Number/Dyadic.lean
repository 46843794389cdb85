import LogHarvest.Number.Dyadic
import Mathlib.Algebra.Order.Field.Power
import Mathlib.Algebra.Order.Field.Rat
import Mathlib.Tactic.FieldSimp
import Mathlib.Tactic.Linarith
import Mathlib.Tactic.NormNum
import Mathlib.Tactic.Positivity
import Mathlib.Tactic.SplitIfs

/-!
# Rounding keeps bounds

Rounding to 53 bits never carries a number over a whole bound that has at most 51 bits: such a bound
lies on the grid of the numbers below it, and what is rounded to the nearest point of a grid does
not pass another point of it.
-/

namespace LogHarvest

theorem roundDiv_le {num den bound : Nat} (hden : 0 < den) (h : num ≤ bound * den) :
    roundDiv num den ≤ bound := by
  obtain rfl | hlt := h.eq_or_lt
  · simp [roundDiv, hden]
  · have hquotient : num / den < bound := (Nat.div_lt_iff_lt_mul hden).2 hlt
    unfold roundDiv
    dsimp only
    split_ifs <;> omega

namespace Dyadic

/-- The number that a fraction stands for. -/
def value (d : Dyadic) : ℚ := (if d.negative then -1 else 1) * d.mantissa * 2 ^ d.exponent

theorem value_nonneg {d : Dyadic} (h : d.negative = false) : 0 ≤ d.value := by
  rw [value, h]
  simp only [Bool.false_eq_true, if_false, one_mul]
  positivity

/-- A quotient in units of a power of two, as a quotient of whole numbers. -/
def inUnits (num den : Nat) (e : Int) : Nat × Nat :=
  if e ≥ 0 then (num, den * powerOfTwo e.toNat) else (num * powerOfTwo (-e).toNat, den)

variable {num den : Nat} {exponent : Int}

theorem inUnits_snd_pos (hden : 0 < den) (e : Int) : 0 < (inUnits num den e).2 := by
  unfold inUnits
  split_ifs
  · exact Nat.mul_pos hden (Nat.pow_pos (by omega))
  · exact hden

theorem inUnits_fst (hden : 0 < den) (e : Int) :
    ((inUnits num den e).1 : ℚ) = num / den * 2 ^ (-e) * (inUnits num den e).2 := by
  have hne : (den : ℚ) ≠ 0 := by positivity
  unfold inUnits
  split_ifs with he
  · obtain ⟨n, rfl⟩ := Int.eq_ofNat_of_zero_le he
    simp only [powerOfTwo, Int.toNat_natCast, Nat.pow_eq, Nat.cast_mul, Nat.cast_pow,
      Nat.cast_ofNat, zpow_neg, zpow_natCast]
    field_simp
  · obtain ⟨n, rfl⟩ : ∃ n : Nat, e = -n := ⟨(-e).toNat, by omega⟩
    simp only [powerOfTwo, neg_neg, Int.toNat_natCast, Nat.pow_eq, Nat.cast_mul, Nat.cast_pow,
      Nat.cast_ofNat, zpow_natCast]
    field_simp

/-- A quotient is rounded in units that leave it 53 bits. -/
theorem exists_ofScaled_eq (negative : Bool) (hnum : num ≠ 0) (den : Nat) (exponent : Int) :
    ∃ e : Int, e ≤ (Nat.log2 num : Int) - Nat.log2 den - 52 ∧
      ofScaled negative num den exponent =
        ⟨negative, roundDiv (inUnits num den e).1 (inUnits num den e).2, e + exponent⟩ := by
  let start : Int := (Nat.log2 num : Int) - Nat.log2 den - 52
  refine ⟨if (inUnits num den start).1 / (inUnits num den start).2 < powerOfTwo 52 then start - 1
    else start, ?_, ?_⟩
  · split_ifs <;> omega
  · rw [ofScaled, if_neg hnum]
    rfl

theorem negative_ofScaled (num den : Nat) (exponent : Int) :
    (ofScaled false num den exponent).negative = false := by
  unfold ofScaled
  split_ifs <;> rfl

/-- The units of a number below a bound of 51 bits are no larger than one. -/
theorem units_le_one {bound : Nat} (hnum : num ≠ 0) (hden : 0 < den) (hbound : bound < 2 ^ 51)
    (h : (num / den : ℚ) * 2 ^ exponent ≤ bound) :
    (Nat.log2 num : Int) - Nat.log2 den - 52 + exponent ≤ 0 := by
  have hlow : ((2 : ℚ) ^ (Nat.log2 num : Int)) ≤ num := by
    rw [zpow_natCast]
    exact_mod_cast Nat.log2_self_le hnum
  have hhigh : (den : ℚ) < 2 ^ ((Nat.log2 den : Int) + 1) := by
    exact_mod_cast Nat.lt_log2_self
  have hpos : (0 : ℚ) < den := by exact_mod_cast hden
  have hcross : (num : ℚ) * 2 ^ exponent ≤ bound * den := by
    have hmul := mul_le_mul_of_nonneg_right h hpos.le
    have hcancel : (num / den : ℚ) * 2 ^ exponent * den = num * 2 ^ exponent := by field_simp
    rwa [hcancel] at hmul
  have hlt : (2 : ℚ) ^ ((Nat.log2 num : Int) + exponent) < 2 ^ (51 + ((Nat.log2 den : Int) + 1)) :=
    calc (2 : ℚ) ^ ((Nat.log2 num : Int) + exponent)
        = 2 ^ (Nat.log2 num : Int) * 2 ^ exponent := zpow_add₀ (by norm_num) _ _
      _ ≤ num * 2 ^ exponent := by gcongr
      _ ≤ bound * den := hcross
      _ < 2 ^ (51 : Int) * 2 ^ ((Nat.log2 den : Int) + 1) := by
          have hbound' : (bound : ℚ) < 2 ^ (51 : Int) := by exact_mod_cast hbound
          gcongr
      _ = 2 ^ (51 + ((Nat.log2 den : Int) + 1)) := (zpow_add₀ (by norm_num) _ _).symm
  have hexponents := (zpow_lt_zpow_iff_right₀ (by norm_num : (1 : ℚ) < 2)).1 hlt
  omega

/-- A number that is no larger than a bound of 51 bits is not rounded to one that is. -/
theorem value_ofScaled_le {bound : Nat} (hden : 0 < den) (hbound : bound < 2 ^ 51)
    (h : (num / den : ℚ) * 2 ^ exponent ≤ bound) :
    (ofScaled false num den exponent).value ≤ bound := by
  by_cases hnum : num = 0
  · simp [ofScaled, hnum, value, zero]
  · obtain ⟨e, he, heq⟩ := exists_ofScaled_eq false hnum den exponent
    have hunits := units_le_one hnum hden hbound h
    obtain ⟨n, hn⟩ : ∃ n : Nat, e + exponent = -n := ⟨(-(e + exponent)).toNat, by omega⟩
    have hround : roundDiv (inUnits num den e).1 (inUnits num den e).2 ≤ bound * 2 ^ n := by
      refine roundDiv_le (inUnits_snd_pos hden e) ?_
      have hpow : (2 : ℚ) ^ (-e) = 2 ^ exponent * 2 ^ n := by
        rw [← zpow_natCast, ← zpow_add₀ (by norm_num)]
        congr 1
        omega
      have hcast : ((inUnits num den e).1 : ℚ) ≤ bound * 2 ^ n * (inUnits num den e).2 := by
        rw [inUnits_fst hden, hpow, ← mul_assoc]
        gcongr
      exact_mod_cast hcast
    rw [heq, value, hn]
    simp only [Bool.false_eq_true, if_false, one_mul, zpow_neg, zpow_natCast]
    have hround' : (roundDiv (inUnits num den e).1 (inUnits num den e).2 : ℚ) ≤ bound * 2 ^ n := by
      exact_mod_cast hround
    calc (roundDiv (inUnits num den e).1 (inUnits num den e).2 : ℚ) * (2 ^ n)⁻¹
        ≤ bound * 2 ^ n * (2 ^ n)⁻¹ := by gcongr
      _ = bound := by field_simp

/-- A share of a whole, in parts of the whole, lies between zero and all of them. -/
theorem value_scale_ofQuotient_mem {num : Int} (factor : Nat) (hnonneg : 0 ≤ num) (hden : 0 < den)
    (hle : num ≤ den) (hfactor : factor < 2 ^ 51) :
    0 ≤ ((ofQuotient num den).scale factor).value ∧
      ((ofQuotient num den).scale factor).value ≤ factor := by
  have hquotient : ofQuotient num den = ofScaled false num.natAbs den 0 := by
    rw [ofQuotient, decide_eq_false (by omega)]
  have hsign := negative_ofScaled num.natAbs den 0
  have hpart : (ofScaled false num.natAbs den 0).value ≤ (1 : Nat) := by
    refine value_ofScaled_le hden (by norm_num) ?_
    have hpos : (0 : ℚ) < den := by exact_mod_cast hden
    rw [zpow_zero, mul_one, Nat.cast_one, div_le_one hpos]
    exact_mod_cast (by omega : num.natAbs ≤ den)
  rw [hquotient]
  generalize ofScaled false num.natAbs den 0 = d at hsign hpart
  rw [scale, hsign]
  refine ⟨value_nonneg (negative_ofScaled _ _ _), value_ofScaled_le (by norm_num) hfactor ?_⟩
  rw [value, hsign] at hpart
  simp only [Bool.false_eq_true, if_false, one_mul, Nat.cast_one] at hpart
  rw [Nat.cast_one, div_one, Nat.cast_mul]
  calc (d.mantissa * factor : ℚ) * 2 ^ d.exponent
      = d.mantissa * 2 ^ d.exponent * factor := mul_right_comm _ _ _
    _ ≤ 1 * factor := by gcongr
    _ = factor := one_mul _

end Dyadic

end LogHarvest
