import LogHarvest.Proofs.Text.Trim
import LogHarvest.Text.Lower

/-!
# Lower-case forms

No run of capital letters leads to a code point that lies on such a run again, to a blank or to a
bar. So a text in lower case is left as it is when it is lowered once more, the final form of the
sigma included, and a text without blanks at its ends has none there in lower case either.
-/

namespace LogHarvest

/-! ### Runs of capital letters -/

namespace Text.Table

/-- No image of the first run lies on the second one: the images stand on one side of it, or take
only the places between those of the second run. -/
def CaseRun.leadsOff (r other : CaseRun) : Bool :=
  Nat.blt other.last r.image || Nat.blt (r.image + (r.last - r.first)) other.first ||
    ((r.step == 2 || r.first == r.last) && other.step == 2 && (r.image + other.first) % 2 == 1)

theorem CaseRun.covers_iff {r : CaseRun} {n : Nat} :
    r.covers n = true ↔ (r.first ≤ n ∧ n ≤ r.last) ∧ (n - r.first) % r.step = 0 := by
  simp [CaseRun.covers]

theorem CaseRun.covers_image {r other : CaseRun} {n : Nat} (h : r.leadsOff other = true)
    (hn : r.covers n = true) : other.covers (r.image + (n - r.first)) = false := by
  refine Bool.eq_false_iff.2 fun hcovers => ?_
  simp only [CaseRun.leadsOff, Bool.or_eq_true, Bool.and_eq_true, Nat.blt_eq, beq_iff_eq] at h
  obtain ⟨⟨hfirst, hlast⟩, hplace⟩ := CaseRun.covers_iff.1 hn
  obtain ⟨⟨hfirst', hlast'⟩, hplace'⟩ := CaseRun.covers_iff.1 hcovers
  obtain (hafter | hbefore) | ⟨⟨hstep, hstep'⟩, hbetween⟩ := h
  · omega
  · omega
  · rw [hstep'] at hplace'
    obtain hstep | hone := hstep
    · rw [hstep] at hplace
      omega
    · omega

/-- A code point stays, or it is taken along a run that it lies on. -/
theorem CaseRun.apply_cases (runs : List CaseRun) (n : Nat) :
    CaseRun.apply runs n = n ∨
      ∃ r ∈ runs, r.covers n = true ∧ CaseRun.apply runs n = r.image + (n - r.first) := by
  induction runs with
  | nil => exact .inl rfl
  | cons r runs ih =>
      rw [CaseRun.apply]
      split
      · next hcovers => exact .inr ⟨r, List.mem_cons_self, hcovers, rfl⟩
      · exact ih.imp_right fun ⟨other, hother, himage⟩ =>
          ⟨other, List.mem_cons_of_mem r hother, himage⟩

theorem CaseRun.apply_eq_self {runs : List CaseRun} {n : Nat}
    (h : ∀ r ∈ runs, r.covers n = false) : CaseRun.apply runs n = n := by
  obtain hself | ⟨r, hr, hcovers, -⟩ := CaseRun.apply_cases runs n
  · exact hself
  · simp [h r hr] at hcovers

theorem apply_apply_lowerRuns (n : Nat) :
    CaseRun.apply lowerRuns (CaseRun.apply lowerRuns n) = CaseRun.apply lowerRuns n := by
  have hoff : ∀ r ∈ lowerRuns, lowerRuns.all r.leadsOff = true := by decide +kernel
  obtain hself | ⟨r, hr, hcovers, himage⟩ := CaseRun.apply_cases lowerRuns n
  · rw [hself, hself]
  · rw [himage]
    refine CaseRun.apply_eq_self fun other hother => ?_
    exact CaseRun.covers_image (List.all_eq_true.1 (hoff r hr) other hother) hcovers

/-- No letter has a bar or a blank for its lower-case form. -/
theorem apply_lowerRuns_notMem {n : Nat} (h : CaseRun.apply lowerRuns n ≠ n) :
    CaseRun.apply lowerRuns n ∉ 124 :: blanks := by
  have hoff : ∀ r ∈ lowerRuns, ∀ d ∈ 124 :: blanks,
      d < r.image ∨ r.image + (r.last - r.first) < d := by decide +kernel
  obtain hself | ⟨r, hr, hcovers, himage⟩ := CaseRun.apply_cases lowerRuns n
  · exact absurd hself h
  · intro hmem
    have hplace := hoff r hr _ hmem
    obtain ⟨⟨hfirst, hlast⟩, -⟩ := CaseRun.covers_iff.1 hcovers
    omega

end Text.Table

/-! ### Codes -/

namespace Code

open Text.Table (CaseRun lowerRuns)

theorem val_lower (c : Code) : c.lower.val = CaseRun.apply lowerRuns c.val := by
  have hruns : lowerRuns = ⟨0x41, 0x5A, 1, 0x61⟩ :: lowerRuns.tail := rfl
  have htail : ∀ r ∈ lowerRuns.tail, 128 ≤ r.first := by decide +kernel
  unfold Code.lower
  split
  · next hascii =>
    simp only [isAscii, decide_eq_true_eq] at hascii
    have hrest : CaseRun.apply lowerRuns.tail c.val = c.val := by
      refine CaseRun.apply_eq_self fun r hr => Bool.eq_false_iff.2 fun hcovers => ?_
      have := htail r hr
      have := (CaseRun.covers_iff.1 hcovers).1.1
      omega
    have hfirst : CaseRun.covers ⟨0x41, 0x5A, 1, 0x61⟩ c.val = c.isAsciiUpper := by
      simp [CaseRun.covers, isAsciiUpper, Nat.mod_one]
    rw [hruns, CaseRun.apply, hfirst, hrest]
    split
    · next hupper =>
      simp only [isAsciiUpper, Bool.and_eq_true, decide_eq_true_eq] at hupper
      dsimp only
      omega
    · rfl
  · rfl

theorem lower_lower (c : Code) : c.lower.lower = c.lower := by
  have hval : c.lower.lower.val = c.lower.val := by
    rw [val_lower, val_lower, Text.Table.apply_apply_lowerRuns]
  exact congrArg Code.mk hval

/-- What a code becomes in lower case: a code that stays so, and that is neither a blank nor a bar
unless the code itself is. -/
structure HasForm (c d : Code) : Prop where
  lower_eq : d.lower = d
  kept_or : d = c ∨ d.val ∉ 124 :: blanks

theorem hasForm_lower (c : Code) : c.HasForm c.lower := by
  refine ⟨c.lower_lower, ?_⟩
  by_cases hval : CaseRun.apply lowerRuns c.val = c.val
  · exact .inl (congrArg Code.mk ((val_lower c).trans hval))
  · refine .inr ?_
    rw [val_lower]
    exact Text.Table.apply_lowerRuns_notMem hval

variable {c d : Code}

theorem HasForm.isBlank (h : c.HasForm d) (hd : d.isBlank = true) : c.isBlank = true := by
  obtain rfl | hnot := h.kept_or
  · exact hd
  · exact absurd (List.mem_cons_of_mem 124 (mem_blanks hd)) hnot

theorem HasForm.eq_bar (h : c.HasForm d) (hd : d = '|') : c = '|' := by
  obtain rfl | hnot := h.kept_or
  · exact hd
  · subst hd
    exact absurd List.mem_cons_self hnot

end Code

/-! ### Texts -/

namespace Text

theorem lowerAfter_cons (before : Text) (c : Code) (rest : Text) :
    ∃ first others, lowerAfter before (c :: rest) =
        (first :: others) ++ lowerAfter (c :: before) rest ∧
      ∀ d ∈ first :: others, c.HasForm d := by
  have hnew {d : Code} (hlower : d.lower = d) (hd : d.val ∉ 124 :: blanks) : c.HasForm d :=
    ⟨hlower, .inr hd⟩
  rw [lowerAfter]
  split
  · refine ⟨_, [], rfl, List.forall_mem_singleton.2 ?_⟩
    split
    · exact hnew (by decide +kernel) (by decide)
    · exact hnew (by decide +kernel) (by decide)
  · split
    · refine ⟨_, [_], rfl, ?_⟩
      rw [List.forall_mem_cons, List.forall_mem_singleton]
      exact ⟨hnew (by decide +kernel) (by decide), hnew (by decide +kernel) (by decide)⟩
    · exact ⟨_, [], rfl, List.forall_mem_singleton.2 c.hasForm_lower⟩

variable {before t : Text}

theorem mem_lowerAfter {d : Code} (h : d ∈ lowerAfter before t) : ∃ c ∈ t, c.HasForm d := by
  induction t generalizing before with
  | nil => simp [lowerAfter] at h
  | cons c rest ih =>
      obtain ⟨first, others, hcons, hforms⟩ := lowerAfter_cons before c rest
      rw [hcons] at h
      obtain h | h := List.mem_append.1 h
      · exact ⟨c, List.mem_cons_self, hforms d h⟩
      · obtain ⟨c', hc', hform⟩ := ih h
        exact ⟨c', List.mem_cons_of_mem c hc', hform⟩

/-- A text all of whose codes are in lower case stays as it is; it has no capital sigma. -/
theorem lowerAfter_eq_self (h : ∀ c ∈ t, c.lower = c) : lowerAfter before t = t := by
  induction t generalizing before with
  | nil => rfl
  | cons c rest ih =>
      obtain ⟨hc, hrest⟩ := List.forall_mem_cons.1 h
      have hsigma : c ≠ capitalSigma := by
        rintro rfl
        exact absurd hc (by decide +kernel)
      have hdotted : c.val ≠ 0x130 := by
        intro hval
        rw [show c = ⟨0x130⟩ from congrArg Code.mk hval] at hc
        exact absurd hc (by decide +kernel)
      rw [lowerAfter, if_neg hsigma, if_neg hdotted, hc, ih hrest, List.singleton_append]

theorem lower_lower (t : Text) : t.lower.lower = t.lower := by
  refine lowerAfter_eq_self fun d hd => ?_
  obtain ⟨c, -, hform⟩ := mem_lowerAfter hd
  exact hform.lower_eq

theorem bar_notMem_lower (h : ('|' : Code) ∉ t) : ('|' : Code) ∉ t.lower := by
  intro hbar
  obtain ⟨c, hc, hform⟩ := mem_lowerAfter hbar
  exact h (hform.eq_bar rfl ▸ hc)

theorem isBlank_of_head_lowerAfter (h : (lowerAfter before t).head?.any Code.isBlank = true) :
    t.head?.any Code.isBlank = true := by
  cases t with
  | nil => exact h
  | cons c rest =>
      obtain ⟨first, others, hcons, hforms⟩ := lowerAfter_cons before c rest
      rw [hcons] at h
      exact (hforms first List.mem_cons_self).isBlank h

theorem isBlank_of_getLast_lowerAfter
    (h : (lowerAfter before t).getLast?.any Code.isBlank = true) :
    t.getLast?.any Code.isBlank = true := by
  induction t generalizing before with
  | nil => exact h
  | cons c rest ih =>
      obtain ⟨first, others, hcons, hforms⟩ := lowerAfter_cons before c rest
      rw [hcons] at h
      cases rest with
      | nil =>
          rw [lowerAfter, List.append_nil, Option.any_eq_true] at h
          obtain ⟨d, hd, hblank⟩ := h
          exact (hforms d (List.mem_of_getLast? hd)).isBlank hblank
      | cons next rest =>
          -- The last code of the text decides, and that is not `c`.
          obtain ⟨first', others', hcons', -⟩ := lowerAfter_cons (c :: before) next rest
          have hne : lowerAfter (c :: before) (next :: rest) ≠ [] := by simp [hcons']
          rw [List.getLast?_append_of_ne_nil _ hne] at h
          rw [List.getLast?_cons_cons]
          exact ih h

/-- A text without blanks at its ends keeps so in lower case. -/
theorem trim_lower (h : t.trim = t) : t.lower.trim = t.lower := by
  obtain ⟨hhead, hlast⟩ := (trim_eq_self_iff t).1 h
  refine (trim_eq_self_iff t.lower).2 ⟨?_, ?_⟩
  · exact Bool.eq_false_iff.2 fun hblank =>
      absurd (isBlank_of_head_lowerAfter hblank) (by simp [hhead])
  · exact Bool.eq_false_iff.2 fun hblank =>
      absurd (isBlank_of_getLast_lowerAfter hblank) (by simp [hlast])

end Text

end LogHarvest
