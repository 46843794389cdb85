import LogHarvest.Proofs.Template.Pieces
import LogHarvest.Proofs.Text.Fields
import LogHarvest.Proofs.Text.Trim

/-!
# The ends of a message

A message begins and ends as its template does, up to the words that stand for markers, and
neither a word nor a marker is blank at its ends. So a message is trimmed exactly when its
template is.
-/

namespace LogHarvest.Template

theorem arguments_nil : Arguments [] [] := ⟨rfl, by simp⟩

/-- Follows a template and its arguments from the left. -/
theorem Arguments.induction
    {motive : (t : Text) → (values : List Text) → Arguments t values → Prop}
    (nil : motive [] [] arguments_nil)
    (marker : ∀ rest value values (hvalue : value.IsWord) (hrest : Arguments rest values),
      motive rest values hrest →
        motive (markerOpen :: markerClose :: rest) (value :: values)
          (arguments_marker_iff.2 ⟨hvalue, hrest⟩))
    (literal : ∀ c rest values (hc : ¬OpensMarker c rest) (hrest : Arguments rest values),
      motive rest values hrest → motive (c :: rest) values ((arguments_literal_iff hc).2 hrest))
    {t : Text} {values : List Text} (h : Arguments t values) : motive t values h := by
  induction t using marker_induction generalizing values with
  | nil =>
      obtain rfl : values = [] := List.eq_nil_of_length_eq_zero h.count
      exact nil
  | marker rest ih =>
      obtain ⟨value, others, rfl⟩ := h.exists_cons
      obtain ⟨hvalue, hothers⟩ := arguments_marker_iff.1 h
      exact marker rest value others hvalue hothers (ih hothers)
  | literal c rest hc ih =>
      have hrest := (arguments_literal_iff hc).1 h
      exact literal c rest values hc hrest (ih hrest)

theorem mem_fill {t : Text} {values : List Text} {c : Code} (h : Arguments t values)
    (hc : c ∈ fill (pieces t) values) : c ∈ t ∨ ∃ value ∈ values, c ∈ value := by
  induction h using Arguments.induction with
  | nil => simp [fill] at hc
  | marker rest value values hvalue hrest ih =>
      rw [fill_pieces_marker, List.mem_append] at hc
      obtain hc | hc := hc
      · exact .inr ⟨value, by simp, hc⟩
      · obtain ht | ⟨v, hv, hcv⟩ := ih hc
        · exact .inl (by simp [ht])
        · exact .inr ⟨v, by simp [hv], hcv⟩
  | literal d rest values hd hrest ih =>
      rw [fill_pieces_literal hd, List.mem_cons] at hc
      obtain rfl | hc := hc
      · exact .inl (by simp)
      · obtain ht | hv := ih hc
        · exact .inl (by simp [ht])
        · exact .inr hv

/-- A code that is no word code is in the message only if it is in the template. -/
theorem mem_of_mem_fill {t : Text} {values : List Text} {c : Code} (h : Arguments t values)
    (hword : c.isWord = false) (hc : c ∈ fill (pieces t) values) : c ∈ t := by
  obtain ht | ⟨value, hvalue, hcv⟩ := mem_fill h hc
  · exact ht
  · simp [(h.words value hvalue).codes c hcv] at hword

theorem fill_eq_nil_iff {t : Text} {values : List Text} (h : Arguments t values) :
    fill (pieces t) values = [] ↔ t = [] := by
  induction h using Arguments.induction with
  | nil => simp [fill]
  | marker rest value values hvalue hrest ih =>
      rw [fill_pieces_marker]
      simp [hvalue.nonempty]
  | literal c rest values hc hrest ih => simp [fill_pieces_literal hc]

/-- A word is not blank at either end. -/
theorem ends_not_isBlank {t : Text} (h : t.IsWord) :
    t.head?.any Code.isBlank = false ∧ t.getLast?.any Code.isBlank = false := by
  have hcodes : ∀ c ∈ t, c.isBlank = false :=
    fun c hc => Code.not_isBlank_of_isWord (h.codes c hc)
  constructor
  · cases hc : t.head? with
    | none => rfl
    | some c => exact hcodes c (List.mem_of_head? hc)
  · cases hc : t.getLast? with
    | none => rfl
    | some c => exact hcodes c (List.mem_of_getLast? hc)

theorem head_fill_isBlank {t : Text} {values : List Text} (h : Arguments t values) :
    (fill (pieces t) values).head?.any Code.isBlank = t.head?.any Code.isBlank := by
  induction h using Arguments.induction with
  | nil => rfl
  | marker rest value values hvalue hrest ih =>
      obtain ⟨c, value, rfl⟩ := List.exists_cons_of_ne_nil hvalue.nonempty
      rw [fill_pieces_marker]
      exact (ends_not_isBlank hvalue).1
  | literal c rest values hc hrest ih =>
      rw [fill_pieces_literal hc]
      rfl

theorem getLast_fill_isBlank {t : Text} {values : List Text} (h : Arguments t values) :
    (fill (pieces t) values).getLast?.any Code.isBlank = t.getLast?.any Code.isBlank := by
  induction h using Arguments.induction with
  | nil => rfl
  | marker rest value values hvalue hrest ih =>
      rw [fill_pieces_marker, List.getLast?_append]
      cases rest with
      | nil =>
          rw [(fill_eq_nil_iff hrest).2 rfl]
          exact (ends_not_isBlank hvalue).2
      | cons c rest =>
          have hne : fill (pieces (c :: rest)) values ≠ [] := by simp [fill_eq_nil_iff hrest]
          rw [List.getLast?_cons_cons, List.getLast?_cons_cons, ← ih,
            List.getLast?_eq_some_getLast hne]
          rfl
  | literal c rest values hc hrest ih =>
      rw [fill_pieces_literal hc]
      cases rest with
      | nil => rw [(fill_eq_nil_iff hrest).2 rfl]
      | cons d rest =>
          have hne : fill (pieces (d :: rest)) values ≠ [] := by simp [fill_eq_nil_iff hrest]
          obtain ⟨e, message, hmessage⟩ := List.exists_cons_of_ne_nil hne
          rw [hmessage] at ih ⊢
          rw [List.getLast?_cons_cons, List.getLast?_cons_cons, ih]

/-- A message is trimmed exactly when its template is. -/
theorem trim_fill_eq_self_iff {t : Text} {values : List Text} (h : Arguments t values) :
    (fill (pieces t) values).trim = fill (pieces t) values ↔ t.trim = t := by
  rw [Text.trim_eq_self_iff, Text.trim_eq_self_iff, head_fill_isBlank h, getLast_fill_isBlank h]

end LogHarvest.Template
