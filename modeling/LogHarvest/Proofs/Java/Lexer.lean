import LogHarvest.Java.Lexer

/-!
# Tokens and the source they are cut from

The text of a token stands in the source where the token says that it does, and a word is made of
letters, digits and what else may stand in a name. Nothing else about tokens is needed to know
what the names in a syntax tree can hold.
-/

namespace LogHarvest.Java

/-- What a word is made of. -/
def isWordCode (c : Code) : Bool := Lexer.isWordStart c || Lexer.isWordPart c

/-- A token that was cut from a source. -/
structure Token.CutFrom (source : Text) (t : Token) : Prop where
  place : (source.drop t.start).take t.text.length = t.text
  word : t.kind = .word → ∀ c ∈ t.text, isWordCode c

/-- The span of a token that was cut from a source shows the token's text. -/
theorem Token.CutFrom.span_text {source : Text} {t : Token} (h : t.CutFrom source) :
    (Span.mk t.start t.stop t.row).text source = t.text := by
  rw [Span.text, Token.stop, Nat.add_sub_cancel_left]
  exact h.place

namespace Lexer

theorem next?_eq_word {fuel length : Nat} {embeddings after : List Embedding} {t : Text}
    (h : next? fuel embeddings t = some (.word, length, after)) :
    ∃ c rest, t = c :: rest ∧ isWordStart c ∧
      length = 1 + (rest.takeWhile isWordPart).length := by
  unfold next? at h
  dsimp only at h
  split at h
  · simp at h
  · next c rest =>
    split at h
    · next hc =>
      simp only [Option.some.injEq, Prod.mk.injEq] at h
      exact ⟨c, rest, rfl, hc, h.2.1.symm⟩
    · -- No other token is a word.
      exfalso
      have hstring {r : Option Stretch} {cut whole : TokenKind}
          {cutRest wholeRest : Stretch → Nat × List Embedding} (hcut : cut ≠ .word)
          (hwhole : whole ≠ .word) :
          (r.map fun s => if s.embeds then (cut, cutRest s) else (whole, wholeRest s)) ≠
            some (.word, length, after) := by
        cases r with
        | none => simp
        | some s => cases hs : s.embeds <;> simp [hs, hcut, hwhole]
      split at h
      · split at h
        · exact hstring (by decide) (by decide) h
        · exact hstring (by decide) (by decide) h
      · split at h
        · split at h <;> simp at h
        · split at h
          · simp at h
          · split at h
            · split at h
              · simp at h
              · split at h
                · split at h
                  · exact hstring (by decide) (by decide) h
                  · simp at h
                · split at h <;> simp at h
            · split at h <;> simp at h

/-- The text that a word token is given holds nothing but word codes. -/
theorem word_take {fuel length : Nat} {embeddings after : List Embedding} {t : Text}
    (h : next? fuel embeddings t = some (.word, length, after)) :
    ∀ c ∈ t.take length, isWordCode c := by
  obtain ⟨c, rest, rfl, hc, rfl⟩ := next?_eq_word h
  intro d hd
  rw [Nat.add_comm, List.take_succ_cons, List.mem_cons] at hd
  obtain rfl | hd := hd
  · simp [isWordCode, hc]
  · have hword : rest.take (rest.takeWhile isWordPart).length = rest.takeWhile isWordPart :=
      (List.prefix_iff_eq_take.1 (List.takeWhile_prefix _)).symm
    rw [hword] at hd
    simp [isWordCode, List.all_eq_true.1 List.all_takeWhile d hd]

theorem cutFrom_of_mem_tokensFrom {source : Text} {fuel place row : Nat}
    {embeddings : List Embedding} {ts : List Token}
    (h : tokensFrom fuel place row embeddings (source.drop place) = some ts) :
    ∀ t ∈ ts, t.CutFrom source := by
  induction fuel generalizing place row embeddings ts with
  | zero =>
      rw [tokensFrom] at h
      split at h
      · obtain rfl := Option.some.inj h
        simp
      · simp at h
  | succ fuel ih =>
      unfold tokensFrom at h
      split at h
      · split at h
        · obtain rfl := Option.some.inj h
          simp
        · simp at h
      · next c rest hsource =>
        have hrest : rest = source.drop (place + 1) := by
          rw [← List.drop_drop, hsource, List.drop_one, List.tail_cons]
        split at h
        · exact ih (hrest ▸ h)
        · split at h
          · rw [List.drop_drop] at h
            exact ih h
          · split at h
            · simp at h
            · next kind length after hnext =>
              obtain ⟨others, hothers, rfl⟩ := Option.map_eq_some_iff.1 h
              rw [List.drop_drop] at hothers
              refine List.forall_mem_cons.2 ⟨⟨?_, ?_⟩, ih hothers⟩
              · simp [List.length_take, List.take_eq_take_iff]
              · rintro rfl
                exact word_take hnext

theorem cutFrom_of_mem_tokens {source : Text} {ts : List Token} (h : tokens? source = some ts) :
    ∀ t ∈ ts, t.CutFrom source := by
  unfold tokens? at h
  split at h
  · simp at h
  · split at h
    · obtain rfl := Option.some.inj h
      simp
    · next c rest _ =>
      split at h
      · exact cutFrom_of_mem_tokensFrom h
      · exact cutFrom_of_mem_tokensFrom h

end Lexer

end LogHarvest.Java
