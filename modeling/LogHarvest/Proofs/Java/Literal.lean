import LogHarvest.Java.Literal
import LogHarvest.Proofs.Text.Lines
import LogHarvest.Proofs.Text.Trim
import LogHarvest.Proofs.Text.Utf8
import Mathlib.Algebra.Group.Nat.Defs

/-!
# What a string literal can evaluate to

The text of a literal is made of the codes between its quotes, of line feeds where a text block
has lines, and of what its escapes stand for. Escapes have few digits, so a literal that is free
of stray bytes evaluates to a text that is free of them.
-/

namespace LogHarvest.Java.Literal

/-! ### The layout of a text block -/

theorem mem_blockLines {content line : Text} {c : Code} (h : line ∈ blockLines content)
    (hc : c ∈ line) : c ∈ content ∨ c = '\n' := by
  have hpieces : line ∈ Text.splitOn '\n' content.normalizeNewlines := by
    rw [blockLines] at h
    split at h
    · next _ hsplit =>
      rw [hsplit]
      exact List.mem_cons_of_mem _ h
    · obtain rfl : line = [] := by simpa using h
      simp at hc
  exact Text.mem_normalizeAfter (Text.mem_of_mem_splitOn hpieces hc)

theorem mem_stripBlock {content : Text} {c : Code} (h : c ∈ stripBlock content) :
    c ∈ content ∨ c = '\n' := by
  obtain hfeed | ⟨stripped, hstripped, hc⟩ := Text.mem_join h
  · exact .inr (by simpa using hfeed)
  · obtain ⟨line, hline, rfl⟩ := List.mem_map.1 hstripped
    rw [stripLine] at hc
    split at hc
    · simp at hc
    · exact mem_blockLines hline (List.mem_of_mem_drop (Text.mem_of_mem_dropRightWhile hc))

theorem mem_body {literal : Text} {c : Code} (h : c ∈ body literal) : c ∈ literal ∨ c = '\n' := by
  rw [body] at h
  split at h
  · refine (mem_stripBlock h).imp_left fun hc => ?_
    exact List.mem_of_mem_drop (List.dropLast_subset _ (List.dropLast_subset _
      (List.dropLast_subset _ hc)))
  · split at h
    · exact .inl (List.mem_of_mem_drop (List.dropLast_subset _ h))
    · exact .inl h

/-! ### Escapes -/

theorem digitValue_lt (c : Code) : c.digitValue < 16 := by
  unfold Code.digitValue Code.isAsciiDigit
  simp only [Bool.and_eq_true, decide_eq_true_eq]
  split
  · omega
  · split
    · omega
    · split <;> omega

/-- Digits write a number below a power of sixteen, in any base up to sixteen. -/
theorem toNat_lt {base : Nat} (hbase : base ≤ 16) (digits : Text) :
    Text.toNat base digits < 16 ^ digits.length := by
  induction digits using List.reverseRecOn with
  | nil => simp [Text.toNat]
  | append_singleton digits c ih =>
      have hc := digitValue_lt c
      have hmul : Text.toNat base digits * base ≤ Text.toNat base digits * 16 :=
        Nat.mul_le_mul_left _ hbase
      rw [Text.toNat_concat, List.length_append, List.length_singleton, Nat.pow_succ]
      omega

theorem isDecoded_number {base : Nat} {digits : Text} (hbase : base ≤ 16)
    (hdigits : digits.length ≤ 4) : Text.IsDecoded [⟨Text.toNat base digits⟩] := by
  intro c hc
  obtain rfl := List.mem_singleton.1 hc
  calc Text.toNat base digits < 16 ^ digits.length := toNat_lt hbase digits
    _ ≤ 16 ^ 4 := Nat.pow_le_pow_right (by omega) hdigits
    _ < 0x110000 := by omega

theorem octalLength_le (t : Text) : octalLength t ≤ 3 := by
  unfold octalLength
  split
  · omega
  · exact Nat.le_trans (Nat.min_le_right _ _) (by split <;> omega)

theorem isDecoded_readEscape {t image : Text} {length : Nat}
    (h : readEscape? t = some (image, length)) : image.IsDecoded := by
  unfold readEscape? at h
  split at h
  · simp at h
  · next c rest =>
    dsimp only at h
    split at h
    · split at h
      · next hdigits =>
        obtain ⟨rfl, -⟩ := Prod.mk.inj (Option.some.inj h)
        exact isDecoded_number (Nat.le_refl 16) (by rw [hdigits.1])
      · simp at h
    · split at h
      · obtain ⟨rfl, -⟩ := Prod.mk.inj (Option.some.inj h)
        have hlength := octalLength_le (c :: rest)
        exact isDecoded_number (by omega) (by rw [List.length_take]; omega)
      · split at h
        · obtain ⟨rfl, -⟩ := Prod.mk.inj (Option.some.inj h)
          simp [Text.IsDecoded]
        · obtain ⟨e, he, heq⟩ := Option.map_eq_some_iff.1 h
          obtain ⟨rfl, -⟩ := Prod.mk.inj heq
          intro d hd
          obtain rfl := List.mem_singleton.1 hd
          have hall : ∀ e ∈ simpleEscapes, e.2.toNat < 0x110000 := by decide
          exact hall e (List.mem_of_find?_eq_some he)

theorem isDecoded_unescapeFrom {t : Text} (h : t.IsDecoded) (skip : Nat) :
    (unescapeFrom skip t).IsDecoded := by
  induction t generalizing skip with
  | nil => cases skip <;> simpa [unescapeFrom] using h
  | cons c rest ih =>
      obtain ⟨hc, hrest⟩ := List.forall_mem_cons.1 h
      cases skip with
      | succ skip => exact ih hrest skip
      | zero =>
          rw [unescapeFrom]
          split
          · split
            · next image length hescape =>
              intro d hd
              obtain hd | hd := List.mem_append.1 hd
              · exact isDecoded_readEscape hescape d hd
              · exact ih hrest length d hd
            · exact List.forall_mem_cons.2 ⟨hc, ih hrest 0⟩
          · exact List.forall_mem_cons.2 ⟨hc, ih hrest 0⟩

theorem isDecoded_value {literal : Text} (h : literal.IsDecoded) : (value literal).IsDecoded := by
  refine isDecoded_unescapeFrom (fun c hc => ?_) 0
  obtain hc | rfl := mem_body hc
  · exact h c hc
  · decide

end LogHarvest.Java.Literal
