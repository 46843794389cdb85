import LogHarvest.Text.Class
import Mathlib.Data.List.DropRight

/-!
# Trimming

Trimming takes blanks off both ends, so a text is trimmed when neither its first code nor its
last is blank, and blanks added at either end make no difference. Line terminators are blanks,
which is why a line may keep its own.
-/

namespace LogHarvest

/-- The blanks, all of them. -/
def blanks : List Nat :=
  [9, 10, 11, 12, 13, 28, 29, 30, 31, 32, 0x85, 0xA0, 0x1680, 0x2000, 0x2001, 0x2002, 0x2003,
    0x2004, 0x2005, 0x2006, 0x2007, 0x2008, 0x2009, 0x200A, 0x2028, 0x2029, 0x202F, 0x205F, 0x3000]

theorem Code.mem_blanks {c : Code} (h : c.isBlank) : c.val ∈ blanks := by
  simp only [Code.isBlank, Bool.or_eq_true, Bool.and_eq_true, decide_eq_true_eq,
    beq_iff_eq] at h
  simp only [blanks, List.mem_cons, List.not_mem_nil, or_false]
  omega

theorem Code.not_isBlank_of_isWord {c : Code} (h : c.isWord) : c.isBlank = false := by
  by_contra hb
  have hblank : ∀ n ∈ blanks, (Code.mk n).isWord = false := by decide +kernel
  have := hblank c.val (Code.mem_blanks (by simpa using hb))
  simp_all

namespace Text

variable {p : Code → Bool}

theorem dropRightWhile_eq (p : Code → Bool) (t : Text) : dropRightWhile p t = t.rdropWhile p := rfl

/-- A code that stays keeps everything before it. -/
theorem dropRightWhile_append_cons {c : Code} (hc : p c = false) (before last : Text) :
    dropRightWhile p (before ++ c :: last) = before ++ c :: dropRightWhile p last := by
  have hrev : (before ++ c :: last).reverse = last.reverse ++ c :: before.reverse := by simp
  rw [dropRightWhile, hrev, List.dropWhile_append]
  split
  · next hnil =>
    rw [List.isEmpty_iff] at hnil
    simp [dropRightWhile, hnil, hc]
  · simp [dropRightWhile]

theorem dropRightWhile_append_of_pos {last : Text} (h : ∀ c ∈ last, p c) (before : Text) :
    dropRightWhile p (before ++ last) = dropRightWhile p before := by
  rw [dropRightWhile, List.reverse_append, List.dropWhile_append_of_pos (by simpa using h),
    dropRightWhile]

/-- What is dropped from the end of a text satisfies the test. -/
theorem exists_eq_dropRightWhile_append (p : Code → Bool) (t : Text) :
    ∃ dropped : Text, t = dropRightWhile p t ++ dropped ∧ ∀ c ∈ dropped, p c :=
  ⟨t.rtakeWhile p, (List.rdropWhile_append_rtakeWhile).symm,
    fun _ hc => List.mem_rtakeWhile_imp hc⟩

theorem mem_of_mem_dropRightWhile {t : Text} {c : Code} (h : c ∈ dropRightWhile p t) : c ∈ t :=
  (List.rdropWhile_prefix p t).subset h

theorem trim_append_blank (t pad : Text) (h : ∀ c ∈ pad, c.isBlank) :
    trim (t ++ pad) = trim t := by
  have hpad : pad.reverse.dropWhile Code.isBlank = [] := by
    simpa [List.dropWhile_eq_nil_iff] using h
  unfold trim
  rw [List.dropWhile_append]
  split
  · next hnil =>
    rw [List.isEmpty_iff] at hnil
    rw [hnil, List.dropWhile_eq_nil_iff.2 h]
  · rw [dropRightWhile, List.reverse_append, List.dropWhile_append, hpad]
    rfl

theorem trim_blank_append (pad t : Text) (h : ∀ c ∈ pad, c.isBlank) :
    trim (pad ++ t) = trim t := by
  rw [trim, List.dropWhile_append_of_pos h, trim]

theorem trim_dropLineEnd (t : Text) : trim (dropLineEnd t) = trim t := by
  obtain ⟨dropped, ht, hdropped⟩ :=
    exists_eq_dropRightWhile_append (fun c : Code => c = '\r' || c = '\n') t
  have hblank : ∀ c ∈ dropped, c.isBlank := by
    intro c hc
    obtain rfl | rfl : c = '\r' ∨ c = '\n' := by simpa using hdropped c hc
    · rfl
    · rfl
  conv_rhs => rw [ht, trim_append_blank _ _ hblank]
  rfl

/-- Trimmed texts are those without a blank at either end. -/
theorem trim_eq_self_iff (t : Text) :
    trim t = t ↔ t.head?.any Code.isBlank = false ∧ t.getLast?.any Code.isBlank = false := by
  have hleft : t.dropWhile Code.isBlank = t ↔ t.head?.any Code.isBlank = false := by
    cases t with
    | nil => simp
    | cons c rest => simp [List.dropWhile_eq_self_iff]
  have hright : t.rdropWhile Code.isBlank = t ↔ t.getLast?.any Code.isBlank = false := by
    rw [List.rdropWhile_eq_self_iff]
    cases h : t.getLast? with
    | none => simp [List.getLast?_eq_none_iff.1 h]
    | some c =>
        have hne : t ≠ [] := by
          rintro rfl
          simp at h
        rw [List.getLast?_eq_some_getLast hne, Option.some.injEq] at h
        simp [hne, h]
  rw [← hleft, ← hright]
  constructor
  · intro h
    -- The text can only be as long as before if neither end has lost a code.
    have hlen := congrArg List.length h
    have hdrop : t.dropWhile Code.isBlank = t := by
      refine (List.dropWhile_sublist _).eq_of_length_le ?_
      rw [← hlen]
      exact (List.rdropWhile_prefix Code.isBlank _).length_le
    refine ⟨hdrop, ?_⟩
    rw [trim, hdrop] at h
    exact h
  · rintro ⟨hdrop, hrdrop⟩
    rw [trim, hdrop]
    exact hrdrop

@[simp] theorem trim_trim (t : Text) : trim (trim t) = trim t := by
  have hend : (trim t).rdropWhile Code.isBlank = trim t :=
    List.rdropWhile_idempotent Code.isBlank (t.dropWhile Code.isBlank)
  have hfront : (trim t).dropWhile Code.isBlank = trim t := by
    obtain ⟨dropped, hdropped⟩ := List.rdropWhile_prefix Code.isBlank (t.dropWhile Code.isBlank)
    change trim t ++ dropped = _ at hdropped
    cases ht : trim t with
    | nil => rfl
    | cons c rest =>
        have hc : Code.isBlank c = false := by
          have hhead := List.head?_dropWhile_not Code.isBlank t
          rw [← hdropped, ht] at hhead
          exact hhead
        rw [List.dropWhile_cons_of_neg (by simp [hc])]
  rw [trim, hfront]
  exact hend

end Text

end LogHarvest
