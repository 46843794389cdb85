import LogHarvest.Proofs.Template.Fits

/-!
# What the pattern of a template matches

The pattern of a template matches the messages made of it and nothing else: a message is matched
in full exactly when it is the pieces of the template with a word in each gap, for such words are
a fit of the template that leaves nothing of the message.
-/

namespace LogHarvest.Template

open Pattern

/-- The pattern of a template matches a message exactly if the message is made of the template. -/
theorem isSome_fullMatch?_pattern (t m : Text) :
    ((pattern t).fullMatch? m).isSome ↔
      ∃ values, Arguments t values ∧ m = fill (pieces t) values := by
  rw [fullMatch?_pattern, Option.isSome_map, List.find?_isSome]
  constructor
  · rintro ⟨values, hvalues, hm⟩
    exact ⟨values, (mem_fits_pieces.1 hvalues).1, (of_decide_eq_true hm).symm⟩
  · rintro ⟨values, hargs, rfl⟩
    exact ⟨values, mem_fits_pieces.2 ⟨hargs, List.prefix_rfl⟩, decide_eq_true rfl⟩

/-- Every template compiles, to its pattern text with one group per marker, and its pattern
matches the pieces of the template with a word in each gap and no other message. -/
theorem exists_compile_fullMatch?_iff (t : Text) :
    ∃ p, compile t = .ok p ∧ p.source = escape t ∧ p.groupCount = markerCount t ∧
      Text.join marker (pieces t) = t ∧ (pieces t).length = markerCount t + 1 ∧
      ∀ m, (p.fullMatch? m).isSome ↔
        ∃ values : List Text, values.length = markerCount t ∧ (∀ v ∈ values, v.IsWord) ∧
          m = fill (pieces t) values := by
  refine ⟨pattern t, compile_eq t, rfl, rfl, join_pieces t, length_pieces t, fun m => ?_⟩
  rw [isSome_fullMatch?_pattern]
  constructor
  · rintro ⟨values, hargs, hm⟩
    exact ⟨values, hargs.count, hargs.words, hm⟩
  · rintro ⟨values, hcount, hwords, hm⟩
    exact ⟨values, ⟨hcount, hwords⟩, hm⟩

/-- Brackets and bars of a template stand for themselves, also next to what means something in
a pattern. -/
example :
    ((pattern (Text.ofString "\x7b\x7b\x7d\x7d|7c+")).fullMatch?
      (Text.ofString "\x7bx_1\x7d|7c+")).isSome = true := by decide

end LogHarvest.Template
