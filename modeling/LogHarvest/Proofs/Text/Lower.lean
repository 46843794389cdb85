import LogHarvest.Proofs.Text.Utf8
import LogHarvest.Text.Lower

/-!
# Lower case of decoded texts

The forms of the letters are code points again, so a decoded text has a decoded lower-case form.
-/

namespace LogHarvest

namespace Text.Table

/-- A run ends below the number of code points, and so does its image. -/
def CaseRun.IsBounded (r : CaseRun) : Prop := r.image + (r.last - r.first) < 0x110000

instance : DecidablePred CaseRun.IsBounded := fun r =>
  inferInstanceAs (Decidable (r.image + (r.last - r.first) < 0x110000))

theorem isBounded_of_mem_lowerRuns {r : CaseRun} (h : r ∈ lowerRuns) : r.IsBounded := by
  have hall : ∀ r ∈ lowerRuns, r.IsBounded := by decide +kernel
  exact hall r h

theorem CaseRun.apply_lt {runs : List CaseRun} (hruns : ∀ r ∈ runs, r.IsBounded) {n : Nat}
    (hn : n < 0x110000) : CaseRun.apply runs n < 0x110000 := by
  induction runs with
  | nil => exact hn
  | cons r runs ih =>
      obtain ⟨hr, hrest⟩ := List.forall_mem_cons.1 hruns
      rw [CaseRun.apply]
      split
      · next hcovers =>
        simp only [CaseRun.covers, Bool.and_eq_true, decide_eq_true_eq] at hcovers
        rw [CaseRun.IsBounded] at hr
        omega
      · exact ih hrest

end Text.Table

theorem Code.val_lower_lt {c : Code} (h : c.val < 0x110000) : c.lower.val < 0x110000 := by
  unfold Code.lower
  split_ifs with hascii hupper
  · simp only [Code.isAscii, decide_eq_true_eq] at hascii
    dsimp only
    omega
  · exact h
  · exact Text.Table.CaseRun.apply_lt (fun r hr => Text.Table.isBounded_of_mem_lowerRuns hr) h

namespace Text

theorem isDecoded_append {s t : Text} : IsDecoded (s ++ t) ↔ s.IsDecoded ∧ t.IsDecoded :=
  List.forall_mem_append

theorem isDecoded_lowerAfter {t : Text} (h : t.IsDecoded) (before : Text) :
    (lowerAfter before t).IsDecoded := by
  induction t generalizing before with
  | nil => exact h
  | cons c rest ih =>
      obtain ⟨hc, hrest⟩ := List.forall_mem_cons.1 h
      refine isDecoded_append.2 ⟨?_, ih hrest (c :: before)⟩
      split_ifs
      · decide
      · decide
      · decide
      · exact List.forall_mem_singleton.2 (Code.val_lower_lt hc)

theorem isDecoded_lower {t : Text} (h : t.IsDecoded) : t.lower.IsDecoded :=
  isDecoded_lowerAfter h []

end Text

end LogHarvest
