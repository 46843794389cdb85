import LogHarvest.Json.Reader
import LogHarvest.Proofs.Text.Utf8
import Mathlib.Algebra.Group.Nat.Defs
import Mathlib.Data.List.Chain
import Mathlib.Tactic.SplitIfs

/-!
# Reading strings that were written

A string is written with an escape for each code that is not visible ASCII, and a code beyond the
basic plane as its two surrogates. So a reader cannot tell such a code from two surrogates that
stand one after the other: it reads the code in both cases, and everything else as it was.
-/

namespace LogHarvest

/-! ### Surrogates in pairs -/

namespace Code

/-- The first of the two surrogates that stand for a code. -/
def IsHigh (c : Code) : Prop := 0xD800 ≤ c.val ∧ c.val < 0xDC00

/-- The second of the two surrogates that stand for a code. -/
def IsLow (c : Code) : Prop := 0xDC00 ≤ c.val ∧ c.val < 0xE000

instance : DecidablePred IsHigh := fun c =>
  inferInstanceAs (Decidable (0xD800 ≤ c.val ∧ c.val < 0xDC00))

instance : DecidablePred IsLow := fun c =>
  inferInstanceAs (Decidable (0xDC00 ≤ c.val ∧ c.val < 0xE000))

/-- The code that two surrogates stand for. -/
def pair (high low : Code) : Code := ⟨0x10000 + (high.val - 0xD800) * 1024 + (low.val - 0xDC00)⟩

theorem val_pair (high low : Code) :
    (pair high low).val = 0x10000 + (high.val - 0xD800) * 1024 + (low.val - 0xDC00) := rfl

/-- A code beyond the basic plane is the pair of its halves. -/
theorem pair_halves {c : Code} (h : 0x10000 ≤ c.val) :
    pair ⟨0xD800 + (c.val - 0x10000) / 1024⟩ ⟨0xDC00 + (c.val - 0x10000) % 1024⟩ = c := by
  have hsum : 0x10000 + (0xD800 + (c.val - 0x10000) / 1024 - 0xD800) * 1024 +
      (0xDC00 + (c.val - 0x10000) % 1024 - 0xDC00) = c.val := by
    omega
  exact congrArg Code.mk hsum

end Code

namespace Text

/-- The text with the code in place of each two surrogates that stand for one. -/
def rejoined : Text → Text
  | [] => []
  | [c] => [c]
  | c :: d :: rest =>
    if c.IsHigh ∧ d.IsLow then Code.pair c d :: rejoined rest else c :: rejoined (d :: rest)

/-- No two surrogates that belong together stand one after the other. -/
def Unpaired (t : Text) : Prop := t.IsChain fun c d => ¬(c.IsHigh ∧ d.IsLow)

instance : DecidablePred Unpaired := fun t =>
  inferInstanceAs (Decidable (t.IsChain fun c d => ¬(c.IsHigh ∧ d.IsLow)))

/-- Joining surrogates changes every text that has some to join. -/
theorem rejoined_eq_self_iff (t : Text) : t.rejoined = t ↔ t.Unpaired := by
  induction t using rejoined.induct with
  | case1 => simp [rejoined, Unpaired]
  | case2 c => simp [rejoined, Unpaired]
  | case3 c d rest hpair ih =>
      rw [rejoined, if_pos hpair, Unpaired, List.isChain_cons_cons]
      refine iff_of_false (fun h => ?_) fun h => h.1 hpair
      have hval := Code.val_pair c d
      rw [(List.cons.inj h).1] at hval
      have := hpair.1.2
      omega
  | case4 c d rest hpair ih =>
      rw [rejoined, if_neg hpair, Unpaired, List.isChain_cons_cons, List.cons.injEq, ih]
      simp [hpair, Unpaired]

theorem unpaired_of_isScalar {t : Text} (h : ∀ c ∈ t, c.IsScalar) : t.Unpaired := by
  refine List.Pairwise.isChain (List.pairwise_of_forall_mem_list fun c hc d hd hpair => ?_)
  have hsurrogate : ¬(0xD800 ≤ c.val ∧ c.val ≤ 0xDFFF) := by
    simpa [Code.isSurrogate] using (h c hc).notSurrogate
  have := hpair.1.2
  exact hsurrogate ⟨hpair.1.1, by omega⟩

theorem Unpaired.rejoined {t : Text} (h : t.Unpaired) : t.rejoined = t :=
  (rejoined_eq_self_iff t).2 h

end Text

namespace Json

open Text.Quoted (hex hexDigit)

/-! ### Hexadecimal digits -/

theorem isHexDigit_hexDigit {n : Nat} (h : n < 16) : (hexDigit n).isHexDigit = true := by
  revert n
  decide

theorem digitValue_hexDigit {n : Nat} (h : n < 16) : (hexDigit n).digitValue = n := by
  revert n
  decide

theorem length_hex (width n : Nat) : (hex width n).length = width := by
  induction width generalizing n with
  | zero => rfl
  | succ width ih => simp [hex, ih]

theorem isHexDigit_of_mem_hex {width n : Nat} {c : Code} (h : c ∈ hex width n) :
    c.isHexDigit = true := by
  induction width generalizing n with
  | zero => simp [hex] at h
  | succ width ih =>
      obtain h | h := List.mem_append.1 h
      · exact ih h
      · obtain rfl := List.mem_singleton.1 h
        exact isHexDigit_hexDigit (Nat.mod_lt n (by decide))

theorem toNat_hex (width n : Nat) : Text.toNat 16 (hex width n) = n % 16 ^ width := by
  induction width generalizing n with
  | zero => simp [hex, Text.toNat, Nat.mod_one]
  | succ width ih =>
      rw [hex, Text.toNat_concat, ih, digitValue_hexDigit (Nat.mod_lt n (by decide)), Nat.pow_succ,
        Nat.mul_comm (16 ^ width) 16, Nat.mod_mul]
      omega

theorem fourHex?_hex {n : Nat} (h : n < 0x10000) (rest : Text) :
    fourHex? (hex 4 n ++ rest) = some n := by
  have htake : (hex 4 n ++ rest).take 4 = hex 4 n := List.take_left' (length_hex 4 n)
  have hdigits : (hex 4 n).all Code.isHexDigit = true :=
    List.all_eq_true.2 fun c hc => isHexDigit_of_mem_hex hc
  rw [fourHex?, htake, if_pos ⟨length_hex 4 n, hdigits⟩, toNat_hex]
  exact congrArg some (Nat.mod_eq_of_lt h)

/-! ### Escapes -/

/-- What may follow a first surrogate that stands alone: no escape, or that of a unit which is no
second surrogate. -/
def KeepsApart (w : Text) : Prop :=
  ∀ rest, w = ('\\' : Code) :: ('u' : Code) :: rest →
    ∃ n more, n < 0x10000 ∧ ¬Code.IsLow ⟨n⟩ ∧ rest = hex 4 n ++ more

variable {opening place : Nat} {w : Text}

@[simp] theorem Tail.drop_mk_cons (c : Code) : Tail.drop ⟨place, c :: w⟩ 1 = ⟨place + 1, w⟩ := rfl

theorem Tail.drop_mk_append (place : Nat) (front w : Text) :
    Tail.drop ⟨place, front ++ w⟩ front.length = ⟨place + front.length, w⟩ := by
  rw [Tail.drop, List.drop_left]

theorem escape_of_surrogate {c : Code} (hlow : 0xD800 ≤ c.val) (hhigh : c.val < 0xE000) :
    escape c = escapeUnit c.val := by
  have hne {d : Char} (hd : d.toNat < 0xD800) : c ≠ (d : Code) := by
    rintro rfl
    exact absurd hlow (Nat.not_le.2 hd)
  have hself : ¬(c = ('"' : Char) ∨ c = ('\\' : Char)) :=
    not_or.2 ⟨hne (by decide), hne (by decide)⟩
  rw [escape, if_neg hself, if_neg (hne (by decide)), if_neg (hne (by decide)),
    if_neg (hne (by decide)), if_neg (by omega), if_neg (by omega), if_neg (by omega),
    if_pos (by omega)]

/-- A unit that is not followed by its other half is read as it is. -/
theorem readEscape_unit {n : Nat} (hn : n < 0x10000) (hw : w ≠ [])
    (hapart : Code.IsHigh ⟨n⟩ → KeepsApart w) :
    readEscape opening ⟨place, ('u' : Code) :: hex 4 n ++ w⟩ = .ok (⟨n⟩, ⟨place + 5, w⟩) := by
  have hlength : ¬(hex 4 n ++ w).length < 5 := by
    have := List.length_pos_iff.2 hw
    rw [List.length_append, length_hex]
    omega
  have hdrop : Tail.drop ⟨place, ('u' : Code) :: hex 4 n ++ w⟩ 5 = ⟨place + 5, w⟩ := by
    have := Tail.drop_mk_append place (('u' : Code) :: hex 4 n) w
    rwa [List.length_cons, length_hex] at this
  have hrest : (hex 4 n ++ w).drop 4 = w := List.drop_left' (length_hex 4 n)
  simp only [readEscape, List.cons_append, ne_eq, not_true_eq_false, if_false, hlength,
    fourHex?_hex hn, hrest]
  rw [List.cons_append] at hdrop
  split
  · next b u rest =>
    split_ifs with hpair
    · obtain ⟨hlow, hhigh, rfl, rfl, -⟩ := hpair
      obtain ⟨m, more, hm, hmLow, rfl⟩ := hapart ⟨hlow, hhigh⟩ rest rfl
      have hsingle : ¬(0xDC00 ≤ m ∧ m < 0xE000) := hmLow
      simp only [fourHex?_hex hm, if_neg hsingle, hdrop]
    · rw [hdrop]
  · rw [hdrop]

/-- Two units that belong together are read as the code that they stand for. -/
theorem readEscape_pair {high low : Nat} (hhigh : Code.IsHigh ⟨high⟩) (hlow : Code.IsLow ⟨low⟩)
    (hw : w ≠ []) :
    readEscape opening ⟨place, ('u' : Code) :: hex 4 high ++ escapeUnit low ++ w⟩ =
      .ok (Code.pair ⟨high⟩ ⟨low⟩, ⟨place + 11, w⟩) := by
  rw [Code.IsHigh] at hhigh
  rw [Code.IsLow] at hlow
  dsimp only at hhigh hlow
  have hpos := List.length_pos_iff.2 hw
  have hlength : ¬(hex 4 high ++ (escapeUnit low ++ w)).length < 5 := by
    rw [List.length_append, List.length_append, length_hex]
    omega
  have hlength' : (hex 4 low ++ w).length ≥ 5 := by
    rw [List.length_append, length_hex]
    omega
  have hrest : (hex 4 high ++ (escapeUnit low ++ w)).drop 4 =
      ('\\' : Code) :: ('u' : Code) :: (hex 4 low ++ w) := List.drop_left' (length_hex 4 high)
  have hdrop : Tail.drop ⟨place, ('u' : Code) :: hex 4 high ++ escapeUnit low ++ w⟩ 11 =
      ⟨place + 11, w⟩ := by
    have := Tail.drop_mk_append place
      (('u' : Code) :: hex 4 high ++ escapeUnit low) w
    simpa only [escapeUnit, List.length_append, List.length_cons, length_hex] using this
  rw [List.cons_append, List.cons_append, List.append_assoc] at hdrop ⊢
  simp only [readEscape, ne_eq, not_true_eq_false, if_false, hlength,
    fourHex?_hex (show high < 0x10000 by omega), hrest,
    fourHex?_hex (show low < 0x10000 by omega), if_pos hlow, hdrop]
  rw [if_pos ⟨hhigh.1, hhigh.2, trivial, trivial, hlength'⟩]
  rfl

theorem readEscape_simple {e c : Code} (he : e ≠ 'u') (hc : simpleEscape? e = some c) :
    readEscape opening ⟨place, e :: w⟩ = .ok (c, ⟨place + 1, w⟩) := by
  simp only [readEscape, if_pos he, hc, Tail.drop_mk_cons]

theorem keepsApart_quote (w : Text) : KeepsApart (('"' : Code) :: w) := by
  intro rest hrest
  exact absurd (List.cons.inj hrest).1 (by decide)

/-- The escape of a code that is no second surrogate keeps a first one apart. -/
theorem keepsApart_escape {d : Code} (hd : d.val < 0x110000) (hlow : ¬d.IsLow) (w : Text) :
    KeepsApart (escape d ++ w) := by
  intro rest hrest
  have hletter {e : Code} {front : Text} (he : ('\\' : Code) :: e :: front ++ w =
      ('\\' : Code) :: ('u' : Code) :: rest) : e = 'u' := (List.cons.inj (List.cons.inj he).2).1
  unfold escape at hrest
  split_ifs at hrest with hself hfeed hreturn htab hform hback hvisible hbasic
  · obtain rfl := hletter hrest
    exact absurd hself (by decide)
  · exact absurd (hletter hrest) (by decide)
  · exact absurd (hletter hrest) (by decide)
  · exact absurd (hletter hrest) (by decide)
  · exact absurd (hletter hrest) (by decide)
  · exact absurd (hletter hrest) (by decide)
  · exact absurd (.inr (List.cons.inj hrest).1) hself
  · exact ⟨d.val, w, hbasic, hlow, (List.cons.inj (List.cons.inj hrest).2).2.symm⟩
  · refine ⟨0xD800 + (d.val - 0x10000) / 1024,
      escapeUnit (0xDC00 + (d.val - 0x10000) % 1024) ++ w, by omega, ?_, ?_⟩
    · rw [Code.IsLow]
      dsimp only
      omega
    · rw [List.append_assoc] at hrest
      exact (List.cons.inj (List.cons.inj hrest).2).2.symm

/-! ### Strings -/

variable {fuel : Nat} {s : Text} {tail : Tail}

theorem readString_backslash {d : Code} {after : Tail}
    (hescape : readEscape opening ⟨place + 1, w⟩ = .ok (d, after))
    (h : readString opening fuel after = .ok (s, tail)) :
    readString opening (fuel + 1) ⟨place, ('\\' : Code) :: w⟩ = .ok (d :: s, tail) := by
  have hquote : ¬(('\\' : Char) : Code) = (('"' : Char) : Code) := by decide
  rw [readString]
  dsimp only
  rw [if_neg hquote, if_pos rfl, Tail.drop_mk_cons, hescape]
  dsimp only [Bind.bind, Except.bind]
  rw [h]
  rfl

/-- A code is read from its escape unless what follows is its other half. -/
theorem readString_escape {c : Code} (hc : c.val < 0x110000) (hw : w ≠ [])
    (hapart : c.IsHigh → KeepsApart w)
    (h : readString opening fuel ⟨place + (escape c).length, w⟩ = .ok (s, tail)) :
    readString opening (fuel + 1) ⟨place, escape c ++ w⟩ = .ok (c :: s, tail) := by
  unfold escape at h ⊢
  split_ifs at h ⊢ with hself hfeed hreturn htab hform hback hvisible hbasic
  · refine readString_backslash (readEscape_simple ?_ ?_) h
    · rintro rfl
      exact absurd hself (by decide)
    · rw [simpleEscape?, if_pos (by tauto)]
  · subst hfeed
    exact readString_backslash (readEscape_simple (by decide) (by decide)) h
  · subst hreturn
    exact readString_backslash (readEscape_simple (by decide) (by decide)) h
  · subst htab
    exact readString_backslash (readEscape_simple (by decide) (by decide)) h
  · obtain rfl : c = ⟨12⟩ := congrArg Code.mk hform
    exact readString_backslash (readEscape_simple (by decide) (by decide)) h
  · obtain rfl : c = ⟨8⟩ := congrArg Code.mk hback
    exact readString_backslash (readEscape_simple (by decide) (by decide)) h
  · obtain ⟨hquote, hslash⟩ := not_or.1 hself
    have hcontrol : ¬c.val < 32 := Nat.not_lt.2 hvisible.1
    rw [List.singleton_append, readString]
    dsimp only
    rw [if_neg hquote, if_neg hslash, if_neg hcontrol, Tail.drop_mk_cons]
    dsimp only [Bind.bind, Except.bind]
    rw [show readString opening fuel ⟨place + 1, w⟩ = .ok (s, tail) from h]
    rfl
  · refine readString_backslash (readEscape_unit hbasic hw hapart) ?_
    rw [escapeUnit, List.length_cons, List.length_cons, length_hex] at h
    rwa [Nat.add_assoc]
  · have hhigh : Code.IsHigh ⟨0xD800 + (c.val - 0x10000) / 1024⟩ := by
      rw [Code.IsHigh]
      dsimp only
      omega
    have hlow : Code.IsLow ⟨0xDC00 + (c.val - 0x10000) % 1024⟩ := by
      rw [Code.IsLow]
      dsimp only
      omega
    rw [List.length_append, escapeUnit, escapeUnit] at h
    simp only [List.length_cons, length_hex] at h
    have hafter : readString opening fuel ⟨place + 1 + 11, w⟩ = .ok (s, tail) := h
    have hread := readString_backslash (readEscape_pair hhigh hlow hw) hafter
    rw [Code.pair_halves (Nat.not_lt.1 hbasic)] at hread
    exact hread

/-- Two surrogates that belong together are read as one code. -/
theorem readString_pair {c d : Code} (hc : c.IsHigh) (hd : d.IsLow) (hw : w ≠ [])
    (h : readString opening fuel ⟨place + (escape c ++ escape d).length, w⟩ = .ok (s, tail)) :
    readString opening (fuel + 1) ⟨place, escape c ++ escape d ++ w⟩ =
      .ok (Code.pair c d :: s, tail) := by
  rw [escape_of_surrogate hc.1 (Nat.lt_trans hc.2 (by decide)),
    escape_of_surrogate (Nat.le_trans (by decide) hd.1) hd.2] at h ⊢
  refine readString_backslash (readEscape_pair hc hd hw) ?_
  rw [List.length_append, escapeUnit, escapeUnit] at h
  simp only [List.length_cons, length_hex] at h
  rwa [Nat.add_assoc]

/-- A text that was written is read with its surrogates joined. -/
theorem readString_flatMap_escape {t : Text} (ht : t.IsDecoded) (opening place : Nat)
    (hfuel : t.length < fuel) (rest : Text) :
    readString opening fuel ⟨place, t.flatMap escape ++ ('"' : Code) :: rest⟩ =
      .ok (t.rejoined, ⟨place + (t.flatMap escape).length + 1, rest⟩) := by
  induction t using Text.rejoined.induct generalizing place fuel with
  | case1 =>
      obtain ⟨fuel, rfl⟩ := Nat.exists_eq_add_one_of_ne_zero (Nat.ne_of_gt hfuel)
      rfl
  | case2 c =>
      obtain ⟨fuel, rfl⟩ := Nat.exists_eq_add_one_of_ne_zero (Nat.ne_zero_of_lt hfuel)
      have hfuel : 0 < fuel := Nat.lt_of_succ_lt_succ hfuel
      obtain ⟨fuel, rfl⟩ := Nat.exists_eq_add_one_of_ne_zero (Nat.ne_of_gt hfuel)
      rw [List.flatMap_singleton]
      exact readString_escape (ht c (by simp)) (by simp) (fun _ => keepsApart_quote rest) rfl
  | case3 c d t hpair ih =>
      obtain ⟨fuel, rfl⟩ := Nat.exists_eq_add_one_of_ne_zero (Nat.ne_zero_of_lt hfuel)
      have hrest := ih (fun e he => ht e (by simp [he])) (place + (escape c ++ escape d).length)
        (Nat.lt_of_succ_lt (Nat.lt_of_succ_lt_succ hfuel))
      rw [Text.rejoined, if_pos hpair, List.flatMap_cons, List.flatMap_cons, ← List.append_assoc,
        List.append_assoc]
      rw [List.length_append, ← Nat.add_assoc]
      exact readString_pair hpair.1 hpair.2 (by simp) hrest
  | case4 c d t hpair ih =>
      obtain ⟨fuel, rfl⟩ := Nat.exists_eq_add_one_of_ne_zero (Nat.ne_zero_of_lt hfuel)
      obtain ⟨hc, hrest⟩ := List.forall_mem_cons.1 ht
      have hread := ih hrest (place + (escape c).length) (Nat.lt_of_succ_lt_succ hfuel)
      have hapart : c.IsHigh → KeepsApart ((d :: t).flatMap escape ++ ('"' : Code) :: rest) := by
        intro hhigh
        rw [List.flatMap_cons, List.append_assoc]
        exact keepsApart_escape (hrest d (by simp)) (fun hlow => hpair ⟨hhigh, hlow⟩) _
      rw [Text.rejoined, if_neg hpair, List.flatMap_cons, List.append_assoc, List.length_append,
        ← Nat.add_assoc]
      exact readString_escape hc (by simp) hapart hread

end Json

end LogHarvest
