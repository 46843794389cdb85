import LogHarvest.Template.Escape
import LogHarvest.Text.Class

/-!
# The pieces of a template

A template is literal text with markers in between. Cutting it at its markers gives the pieces,
one more than there are markers, and a message is made by putting a value into each gap. The
pieces are the second view of a template beside its pattern text: statements about what a
pattern matches speak of pieces and values and never of escapes.

Everything below follows the template from the left, where it either starts with a marker or
with a code that stands for itself.
-/

namespace LogHarvest

/-- A text that can stand for a marker: word codes, and at least one of them. -/
structure Text.IsWord (t : Text) : Prop where
  nonempty : t ≠ []
  codes : ∀ c ∈ t, c.isWord

namespace Template

/-- The marker itself. -/
def marker : Text := [markerOpen, markerClose]

/-- A code opens a marker when the code after it closes one. -/
def OpensMarker (c : Code) (rest : Text) : Prop := c = markerOpen ∧ rest.head? = some markerClose

/-- The literal text before, between and after the markers. -/
def pieces : Text → List Text
  | [] => [[]]
  | [c] => [[c]]
  | c :: d :: rest =>
    if c = markerOpen ∧ d = markerClose then [] :: pieces rest
    else (pieces (d :: rest)).modifyHead (c :: ·)

/-- Pieces with a value in each gap. -/
def fill : List Text → List Text → Text
  | [], _ => []
  | piece :: pieces, [] => piece ++ fill pieces []
  | piece :: pieces, value :: values => piece ++ value ++ fill pieces values

/-- A word for each marker of a template. -/
structure Arguments (t : Text) (values : List Text) : Prop where
  count : values.length = markerCount t
  words : ∀ value ∈ values, value.IsWord

/-- A template starts with a marker or with a code that opens none. -/
theorem marker_induction {motive : Text → Prop} (nil : motive [])
    (marker : ∀ rest, motive rest → motive (markerOpen :: markerClose :: rest))
    (literal : ∀ c rest, ¬OpensMarker c rest → motive rest → motive (c :: rest)) :
    ∀ t, motive t
  | [] => nil
  | [c] => literal c [] (by simp [OpensMarker]) nil
  | c :: d :: rest => by
      by_cases h : c = markerOpen ∧ d = markerClose
      · obtain ⟨rfl, rfl⟩ := h
        exact marker rest (marker_induction nil marker literal rest)
      · exact literal c (d :: rest) (by simpa [OpensMarker] using h)
          (marker_induction nil marker literal (d :: rest))

section Equations

variable {c : Code} {rest : Text}

@[simp] theorem escapeWith_marker (group rest : Text) :
    escapeWith group (markerOpen :: markerClose :: rest) = group ++ escapeWith group rest := by
  rw [escapeWith, if_pos ⟨rfl, rfl⟩]

theorem escapeWith_literal (group : Text) (h : ¬OpensMarker c rest) :
    escapeWith group (c :: rest) = escapeCode c ++ escapeWith group rest := by
  cases rest with
  | nil => simp [escapeWith]
  | cons d rest => rw [escapeWith, if_neg (by simpa [OpensMarker] using h)]

@[simp] theorem markerCount_nil : markerCount [] = 0 := rfl

@[simp] theorem markerCount_marker (rest : Text) :
    markerCount (markerOpen :: markerClose :: rest) = markerCount rest + 1 := by
  rw [markerCount, Text.countPair, if_pos ⟨rfl, rfl⟩, markerCount]

theorem markerCount_literal (h : ¬OpensMarker c rest) :
    markerCount (c :: rest) = markerCount rest := by
  cases rest with
  | nil => rfl
  | cons d rest =>
      have hopens : ¬(c = markerOpen ∧ d = markerClose) := by simpa [OpensMarker] using h
      rw [markerCount, Text.countPair, if_neg hopens, markerCount]

@[simp] theorem pieces_nil : pieces [] = [[]] := rfl

@[simp] theorem pieces_marker (rest : Text) :
    pieces (markerOpen :: markerClose :: rest) = [] :: pieces rest := by
  rw [pieces, if_pos ⟨rfl, rfl⟩]

theorem pieces_literal (h : ¬OpensMarker c rest) :
    pieces (c :: rest) = (pieces rest).modifyHead (c :: ·) := by
  cases rest with
  | nil => rfl
  | cons d rest => rw [pieces, if_neg (by simpa [OpensMarker] using h)]

end Equations

/-- There is one piece more than there are markers. -/
theorem length_pieces (t : Text) : (pieces t).length = markerCount t + 1 := by
  induction t using marker_induction with
  | nil => rfl
  | marker rest ih => rw [pieces_marker, markerCount_marker, List.length_cons, ih]
  | literal c rest h ih => rw [pieces_literal h, markerCount_literal h, List.length_modifyHead, ih]

theorem exists_pieces_eq_cons (t : Text) : ∃ piece others, pieces t = piece :: others :=
  List.exists_cons_of_length_eq_add_one (length_pieces t)

/-- The pieces with the markers back in the gaps are the template. -/
theorem join_pieces (t : Text) : Text.join marker (pieces t) = t := by
  induction t using marker_induction with
  | nil => rfl
  | marker rest ih =>
      obtain ⟨piece, others, hp⟩ := exists_pieces_eq_cons rest
      rw [hp] at ih
      rw [pieces_marker, hp, Text.join, ih]
      · rfl
      · exact List.cons_ne_nil _ _
  | literal c rest h ih =>
      obtain ⟨piece, others, hp⟩ := exists_pieces_eq_cons rest
      rw [hp] at ih
      rw [pieces_literal h, hp, List.modifyHead_cons]
      cases others with
      | nil => rw [Text.join] at ih ⊢; rw [ih]
      | cons next others =>
          rw [Text.join] at ih ⊢
          · rw [← ih]; rfl
          · exact List.cons_ne_nil _ _
          · exact List.cons_ne_nil _ _

/-! ### Messages -/

/-- A code of the first piece comes first in the message. -/
theorem fill_modifyHead (c : Code) {ps : List Text} (hps : ps ≠ []) (values : List Text) :
    fill (ps.modifyHead (c :: ·)) values = c :: fill ps values := by
  cases ps with
  | nil => exact absurd rfl hps
  | cons piece ps => cases values <;> simp [fill]

theorem fill_pieces_marker (rest value : Text) (values : List Text) :
    fill (pieces (markerOpen :: markerClose :: rest)) (value :: values) =
      value ++ fill (pieces rest) values := by
  rw [pieces_marker, fill, List.nil_append]

theorem fill_pieces_literal {c : Code} {rest : Text} (h : ¬OpensMarker c rest)
    (values : List Text) :
    fill (pieces (c :: rest)) values = c :: fill (pieces rest) values := by
  rw [pieces_literal h]
  exact fill_modifyHead c (List.ne_nil_of_length_eq_add_one (length_pieces rest)) values

theorem arguments_marker_iff {rest value : Text} {values : List Text} :
    Arguments (markerOpen :: markerClose :: rest) (value :: values) ↔
      value.IsWord ∧ Arguments rest values := by
  constructor
  · intro h
    have hcount := h.count
    rw [markerCount_marker, List.length_cons] at hcount
    exact ⟨h.words value List.mem_cons_self,
      by omega, fun v hv => h.words v (List.mem_cons_of_mem value hv)⟩
  · rintro ⟨hvalue, h⟩
    refine ⟨by rw [markerCount_marker, List.length_cons, h.count], ?_⟩
    intro v hv
    rcases List.mem_cons.mp hv with rfl | hv
    · exact hvalue
    · exact h.words v hv

theorem arguments_literal_iff {c : Code} {rest : Text} (h : ¬OpensMarker c rest)
    {values : List Text} : Arguments (c :: rest) values ↔ Arguments rest values := by
  constructor
  · exact fun a => ⟨by rw [a.count, markerCount_literal h], a.words⟩
  · exact fun a => ⟨by rw [a.count, markerCount_literal h], a.words⟩

/-- A template that starts with a marker has a first value. -/
theorem Arguments.exists_cons {rest : Text} {values : List Text}
    (h : Arguments (markerOpen :: markerClose :: rest) values) :
    ∃ value others, values = value :: others :=
  List.exists_cons_of_length_eq_add_one (h.count.trans (markerCount_marker rest))

end Template

end LogHarvest
