import LogHarvest.Glob

/-!
# Globs that end in a star

A star at the end of a glob is always read as one: it cannot stand in a set, which a bracket after
it would have to close. So such a glob matches with a text every longer text that starts with it.
-/

namespace LogHarvest.Glob

/-! ### Reading the last star -/

/-- A set ends where a bracket closes it. -/
theorem getElem?_setLength {t : Text} {length : Nat} (h : setLength? t = some length) :
    t[length]? = some (']' : Code) := by
  unfold setLength? at h
  obtain ⟨offset, hoffset, rfl⟩ := Option.map_eq_some_iff.1 h
  obtain ⟨hlt, hclosing, -⟩ := List.findIdx?_eq_some_iff_getElem.1 hoffset
  have hget := List.getElem?_eq_getElem hlt
  rw [List.getElem?_drop] at hget
  rw [hget, of_decide_eq_true hclosing]

/-- A set does not take in a star that comes last. -/
theorem setLength_lt {t : Text} {length : Nat}
    (h : setLength? (t ++ [('*' : Code)]) = some length) : length < t.length := by
  have hclosing := getElem?_setLength h
  refine Nat.lt_of_not_le fun hlast => ?_
  rw [List.getElem?_append_right hlast] at hclosing
  have hstar : Code.ofChar ']' = Code.ofChar '*' :=
    List.eq_of_mem_singleton (List.mem_of_getElem? hclosing)
  exact absurd hstar (by decide)

theorem exists_readFrom_star {skip : Nat} {t : Text} (h : skip ≤ t.length) :
    ∃ g, readFrom skip (t ++ [('*' : Code)]) = g ++ [.star] := by
  induction t generalizing skip with
  | nil =>
      obtain rfl := Nat.le_zero.1 h
      exact ⟨[], rfl⟩
  | cons c rest ih =>
      cases skip with
      | succ skip => exact ih (Nat.le_of_succ_le_succ h)
      | zero =>
          -- After the part that is read next, a shorter text is read up to the same star.
          have hnext (part : GlobPart) {skip : Nat} (hskip : skip ≤ rest.length) :
              ∃ g, part :: readFrom skip (rest ++ [('*' : Code)]) = g ++ [.star] := by
            obtain ⟨g, hg⟩ := ih hskip
            exact ⟨part :: g, by rw [hg, List.cons_append]⟩
          rw [List.cons_append, readFrom]
          split
          · exact hnext _ (Nat.zero_le _)
          · split
            · exact hnext _ (Nat.zero_le _)
            · split
              · split
                · next length hlength => exact hnext _ (setLength_lt hlength)
                · exact hnext _ (Nat.zero_le _)
              · exact hnext _ (Nat.zero_le _)

/-! ### Longer texts -/

/-- A test that is passed by every text that starts with one that passes. -/
def KeepsLonger (p : Text → Bool) : Prop := ∀ t more, p t = true → p (t ++ more) = true

theorem keepsLonger_anySuffix {p : Text → Bool} (h : KeepsLonger p) :
    KeepsLonger (anySuffix p) := by
  intro t more ht
  induction t with
  | nil =>
      have hmore : p more = true := h [] more ht
      cases more with
      | nil => exact hmore
      | cons c more => simp [anySuffix, hmore]
  | cons c rest ih =>
      rw [anySuffix, Bool.or_eq_true] at ht
      rw [List.cons_append, anySuffix, Bool.or_eq_true]
      exact ht.imp (h (c :: rest) more) ih

theorem keepsLonger_firstThen (test : Code → Bool) {p : Text → Bool} (h : KeepsLonger p) :
    KeepsLonger (firstThen test p) := by
  intro t more ht
  cases t with
  | nil => simp [firstThen] at ht
  | cons c rest =>
      rw [firstThen, Bool.and_eq_true] at ht
      rw [List.cons_append, firstThen, Bool.and_eq_true]
      exact ht.imp_right (h rest more)

theorem accepts_star (t : Text) : accepts [.star] t = true := by
  induction t with
  | nil => rfl
  | cons c rest ih =>
      rw [accepts, anySuffix, Bool.or_eq_true]
      exact .inr ih

theorem keepsLonger_accepts (g : Glob) : KeepsLonger (accepts (g ++ [.star])) := by
  induction g with
  | nil => exact fun t more _ => accepts_star (t ++ more)
  | cons part g ih =>
      cases part with
      | star => exact keepsLonger_anySuffix ih
      | any => exact keepsLonger_firstThen _ ih
      | literal c => exact keepsLonger_firstThen _ ih
      | set negated ranges => exact keepsLonger_firstThen _ ih

/-- A glob that ends in a star matches with a text all texts that start with it. -/
theorem keepsLonger_read {glob : Text} (h : glob.getLast? = some ('*' : Code)) :
    KeepsLonger (read glob).accepts := by
  obtain ⟨t, rfl⟩ := List.getLast?_eq_some_iff.1 h
  obtain ⟨g, hg⟩ := exists_readFrom_star (Nat.zero_le t.length)
  rw [read, hg]
  exact keepsLonger_accepts g

end LogHarvest.Glob
