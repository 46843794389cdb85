import LogHarvest.Proofs.Reading.Shape
import LogHarvest.Proofs.Template.Matching

/-!
# What the groups of a template capture

A message may be made of a template in several ways: after `{}{}` any two words that follow each
other can trade codes. The groups of a match are one of these ways, so nothing of the message is
lost, and of all of them the one in which the first word is as long as possible, then the second,
and so on. Where every two markers have a code between them that no word holds there is one way
only, and the groups are the values that the message was made with.
-/

namespace LogHarvest.Template

open Pattern

/-! ### The greatest values -/

/-- The groups of a match are the values of a way in which the message is made of the template, and
any other way has lexicographically smaller lengths. -/
theorem exists_values_of_fullMatch? {t m : Text} {groups : List (Option Text)}
    (h : (pattern t).fullMatch? m = some groups) :
    ∃ values, groups = values.map some ∧ Arguments t values ∧ fill (pieces t) values = m ∧
      ∀ others, Arguments t others → fill (pieces t) others = m → others ≠ values →
        others.map List.length < values.map List.length := by
  rw [fullMatch?_pattern] at h
  obtain ⟨values, hfound, rfl⟩ := Option.map_eq_some_iff.1 h
  have hvalues := mem_fits_pieces.1 (List.mem_of_find?_eq_some hfound)
  obtain ⟨hm, earlier, later, hfits, hearlier⟩ := List.find?_eq_some_iff_append.1 hfound
  refine ⟨values, rfl, hvalues.1, of_decide_eq_true hm, fun others hargs hmade hne => ?_⟩
  have hmem : others ∈ fits (pieces t) m :=
    mem_fits_pieces.2 ⟨hargs, hmade ▸ List.prefix_rfl⟩
  have hsorted := fits_pairwise (pieces t) m
  rw [hfits] at hmem hsorted
  -- The way that is found is the first, so another one comes after it.
  obtain hbefore | hafter := List.mem_append.1 hmem
  · simpa [hmade] using hearlier others hbefore
  · obtain rfl | hafter := List.mem_cons.1 hafter
    · exact absurd rfl hne
    · exact (List.pairwise_cons.1 (List.pairwise_append.1 hsorted).2.1).1 others hafter

/-- Every template compiles, and the groups of a match of its pattern are words that fill the gaps
of the template to the whole message, with lexicographically greater lengths than any other words
that do. A reading by a statement with the pattern keeps these words as its captures if there are
any. -/
theorem captures_greatest (t : Text) :
    ∃ p, compile t = .ok p ∧ ∀ m groups, p.fullMatch? m = some groups →
      ∃ values : List Text, groups = values.map some ∧ values.length = markerCount t ∧
        (∀ v ∈ values, v.IsWord) ∧ fill (pieces t) values = m ∧
        (∀ others : List Text, others.length = markerCount t → (∀ v ∈ others, v.IsWord) →
          fill (pieces t) others = m → others ≠ values →
          others.map List.length < values.map List.length) ∧
        ∀ ss clazz s, s.pattern = p → Reading.IsWinner ss m clazz s groups →
          ∃ r, Reading.ofMessage? (Store.ofList ss) m clazz = some r ∧
            r.captures = if 0 < markerCount t then some (values.map some) else none := by
  refine ⟨pattern t, compile_eq t, fun m groups h => ?_⟩
  obtain ⟨values, rfl, hargs, hmade, hgreatest⟩ := exists_values_of_fullMatch? h
  refine ⟨values, rfl, hargs.count, hargs.words, hmade, ?_, ?_⟩
  · intro others hcount hwords hmade' hne
    exact hgreatest others ⟨hcount, hwords⟩ hmade' hne
  · intro ss clazz s hpattern hwinner
    refine ⟨Reading.ofMatch m s (values.map some), hwinner.ofMessage?_eq, ?_⟩
    rw [Reading.ofMatch, hpattern]
    rfl

/-- Of the two ways in which a message is made of a template, the groups are the one with the longer
first word, and this is what a reading keeps. -/
theorem captures_greatest_longerFirst :
    ∃ p, compile (Text.ofString "\x7b\x7da\x7b\x7d") = .ok p ∧
      p.fullMatch? (Text.ofString "xaay") =
        some [some (Text.ofString "xa"), some (Text.ofString "y")] ∧
      fill (pieces (Text.ofString "\x7b\x7da\x7b\x7d"))
        [Text.ofString "x", Text.ofString "ay"] = Text.ofString "xaay" ∧
      [Text.ofString "x", Text.ofString "ay"].map List.length <
        [Text.ofString "xa", Text.ofString "y"].map List.length ∧
      ∃ r, Reading.ofMessage? (Store.ofList [⟨Text.ofString "info", Text.ofString "Net", p⟩])
          (Text.ofString "xaay") (Text.ofString "Net") = some r ∧
        r.captures = some [some (Text.ofString "xa"), some (Text.ofString "y")] := by
  obtain ⟨p, hp, hcaptures⟩ := captures_greatest (Text.ofString "\x7b\x7da\x7b\x7d")
  obtain rfl : pattern (Text.ofString "\x7b\x7da\x7b\x7d") = p :=
    Except.ok.inj ((compile_eq _).symm.trans hp)
  have hmatch : (pattern (Text.ofString "\x7b\x7da\x7b\x7d")).fullMatch? (Text.ofString "xaay") =
      some ([Text.ofString "xa", Text.ofString "y"].map some) := by decide
  obtain ⟨values, hvalues, -, -, -, hgreatest, hstored⟩ := hcaptures _ _ hmatch
  obtain rfl : [Text.ofString "xa", Text.ofString "y"] = values :=
    List.map_injective_iff.2 (Option.some_injective _) hvalues
  refine ⟨_, hp, hmatch, by decide, hgreatest _ (by decide) ?_ (by decide) (by decide), ?_⟩
  · simp only [List.forall_mem_cons]
    exact ⟨⟨by decide, by decide⟩, ⟨by decide, by decide⟩, by simp⟩
  · obtain ⟨r, hr, hkept⟩ := hstored _ (Text.ofString "Net")
      ⟨Text.ofString "info", Text.ofString "Net", _⟩ rfl ⟨rfl, hmatch, [], [], rfl, by simp⟩
    exact ⟨r, hr, hkept⟩

/-! ### Separated markers -/

/-- Between every two markers of a template stands a code that no word holds. -/
def Separated (t : Text) : Prop :=
  ∀ piece ∈ (pieces t).tail.dropLast, ∃ c ∈ piece, c.isWord = false

instance : DecidablePred Separated := fun t =>
  inferInstanceAs (Decidable (∀ piece ∈ (pieces t).tail.dropLast, ∃ c ∈ piece, c.isWord = false))

/-- What follows a code that is no word code does not count for the word codes at the front. -/
theorem takeWhile_append_of_exists {piece : Text} (h : ∃ c ∈ piece, c.isWord = false)
    (rest : Text) : (piece ++ rest).takeWhile Code.isWord = piece.takeWhile Code.isWord := by
  rw [List.takeWhile_append, if_neg]
  intro hlen
  obtain ⟨c, hc, hword⟩ := h
  have hall : piece.takeWhile Code.isWord = piece :=
    (List.takeWhile_prefix Code.isWord).eq_of_length hlen
  rw [← hall] at hc
  simp [List.mem_takeWhile_imp hc] at hword

/-- Words before a separator are found again. -/
theorem eq_of_append_separator {v w piece rest rest' : Text} (hv : v.IsWord) (hw : w.IsWord)
    (hpiece : ∃ c ∈ piece, c.isWord = false)
    (h : v ++ (piece ++ rest) = w ++ (piece ++ rest')) : v = w := by
  have hfront := congrArg (List.takeWhile Code.isWord) h
  rw [List.takeWhile_append_of_pos hv.codes, List.takeWhile_append_of_pos hw.codes,
    takeWhile_append_of_exists hpiece, takeWhile_append_of_exists hpiece] at hfront
  exact List.append_cancel_right hfront

theorem exists_fill_cons (piece : Text) (ps values : List Text) :
    ∃ rest, fill (piece :: ps) values = piece ++ rest := by
  cases values with
  | nil => exact ⟨_, rfl⟩
  | cons value values => exact ⟨_, List.append_assoc ..⟩

/-- A message is made of separated pieces in one way. -/
theorem eq_of_fill_eq {ps values others : List Text}
    (hsep : ∀ piece ∈ ps.tail.dropLast, ∃ c ∈ piece, c.isWord = false)
    (hlen : ps.length = values.length + 1) (hlen' : ps.length = others.length + 1)
    (hwords : ∀ v ∈ values, v.IsWord) (hwords' : ∀ v ∈ others, v.IsWord)
    (h : fill ps values = fill ps others) : values = others := by
  induction values generalizing ps others with
  | nil => exact (List.eq_nil_of_length_eq_zero (by simp_all)).symm
  | cons value values ih =>
      obtain ⟨other, others, rfl⟩ := List.exists_cons_of_length_eq_add_one
        (show others.length = values.length + 1 by simp_all)
      obtain ⟨piece, ps, rfl⟩ := List.exists_cons_of_length_eq_add_one hlen
      obtain ⟨next, ps, rfl⟩ := List.exists_cons_of_length_eq_add_one
        (show ps.length = values.length + 1 by simpa using hlen)
      obtain ⟨hvalue, hvalues⟩ := List.forall_mem_cons.1 hwords
      obtain ⟨hother, hothers⟩ := List.forall_mem_cons.1 hwords'
      have hgaps : value ++ fill (next :: ps) values = other ++ fill (next :: ps) others := by
        simpa [fill, List.append_assoc] using h
      have heq : value = other := by
        cases ps with
        | nil =>
            -- The last piece ends the message, whatever it holds.
            obtain rfl : values = [] := List.eq_nil_of_length_eq_zero (by simpa using hlen)
            obtain rfl : others = [] := List.eq_nil_of_length_eq_zero (by simpa using hlen')
            exact List.append_cancel_right hgaps
        | cons last ps =>
            obtain ⟨rest, hrest⟩ := exists_fill_cons next (last :: ps) values
            obtain ⟨rest', hrest'⟩ := exists_fill_cons next (last :: ps) others
            rw [hrest, hrest'] at hgaps
            exact eq_of_append_separator hvalue hother (hsep next (by simp)) hgaps
      subst heq
      have hsep' : ∀ piece ∈ (next :: ps).tail.dropLast, ∃ c ∈ piece, c.isWord = false := by
        intro p hp
        cases ps with
        | nil => simp at hp
        | cons last ps => exact hsep p (List.mem_cons_of_mem next hp)
      have hrest : values = others := ih hsep' (by simpa using hlen) (by simpa using hlen') hvalues
        hothers (List.append_cancel_left hgaps)
      rw [hrest]

/-- Where the markers are separated, the pattern of a template matches every message made of it and
gives back the values that the message was made with. -/
theorem fullMatch?_fill_of_separated {t : Text} {values : List Text} (hsep : Separated t)
    (hcount : values.length = markerCount t) (hwords : ∀ v ∈ values, v.IsWord) :
    ∃ p, compile t = .ok p ∧ p.fullMatch? (fill (pieces t) values) = some (values.map some) := by
  refine ⟨pattern t, compile_eq t, ?_⟩
  have hmatch := (isSome_fullMatch?_pattern t (fill (pieces t) values)).2
    ⟨values, ⟨hcount, hwords⟩, rfl⟩
  obtain ⟨groups, hgroups⟩ := Option.isSome_iff_exists.1 hmatch
  obtain ⟨found, rfl, hargs, hmade, -⟩ := exists_values_of_fullMatch? hgroups
  have heq : values = found := by
    refine eq_of_fill_eq hsep ?_ ?_ hwords hargs.words hmade.symm
    · rw [length_pieces, hcount]
    · rw [length_pieces, hargs.count]
  rw [hgroups, heq]

/-- A separator that begins and ends as the values do gives them back all the same. -/
theorem fullMatch?_fill_of_separated_dash :
    Separated (Text.ofString "\x7b\x7da-a\x7b\x7d") ∧
    ∃ p, compile (Text.ofString "\x7b\x7da-a\x7b\x7d") = .ok p ∧
      p.fullMatch? (Text.ofString "baa-aab") =
        some [some (Text.ofString "ba"), some (Text.ofString "ab")] := by
  have hsep : Separated (Text.ofString "\x7b\x7da-a\x7b\x7d") := by decide
  have hwords : ∀ v ∈ [Text.ofString "ba", Text.ofString "ab"], v.IsWord := by
    simp only [List.forall_mem_cons]
    exact ⟨⟨by decide, by decide⟩, ⟨by decide, by decide⟩, by simp⟩
  exact ⟨hsep, fullMatch?_fill_of_separated hsep (by decide) hwords⟩

end LogHarvest.Template
