import LogHarvest.Proofs.Template.Pieces
import LogHarvest.Proofs.Text.Fields
import Mathlib.Data.List.Infix

/-!
# Escaping piece by piece

The scan of a template finds its markers from the left. They stand wherever a closed brace comes
right after an open one, and no two of them share a brace, so the pieces between them can be told
without any scan: there is one way to cut a template such that nothing but markers is cut out. The
pattern text is made of the pieces, each escaped code by code, with the group in the gaps.

Two templates side by side are escaped one by one, unless the first ends and the second begins with
a half of a marker.
-/

namespace LogHarvest.Template

/-! ### Places of markers -/

theorem isPrefix_cons_iff_opensMarker {c : Code} {rest : Text} :
    marker <+: c :: rest ↔ OpensMarker c rest := by
  rw [marker, List.cons_prefix_cons, OpensMarker, eq_comm]
  cases rest with
  | nil => simp
  | cons d rest => simp [eq_comm]

/-- The scan counts every place at which a marker stands. -/
theorem markerCount_eq_countP_tails (t : Text) :
    markerCount t = t.tails.countP fun rest => marker <+: rest := by
  induction t using marker_induction with
  | nil => rfl
  | marker rest ih =>
      have hopens : marker <+: markerOpen :: markerClose :: rest := List.prefix_append marker rest
      have hcloses : ¬marker <+: markerClose :: rest := by
        rw [isPrefix_cons_iff_opensMarker]
        exact fun h => absurd h.1 (by decide)
      rw [markerCount_marker, ih, List.tails_cons, List.tails_cons, List.countP_cons,
        List.countP_cons, if_pos (decide_eq_true hopens), if_neg (by simpa using hcloses)]
  | literal c rest hc ih =>
      have hnone : ¬marker <+: c :: rest := fun h => hc (isPrefix_cons_iff_opensMarker.1 h)
      rw [markerCount_literal hc, ih, List.tails_cons, List.countP_cons,
        if_neg (by simpa using hnone), Nat.add_zero]

/-! ### Seams -/

/-- A marker lies across the seam of two texts. -/
def SeamMarker (a b : Text) : Prop :=
  a.getLast? = some markerOpen ∧ b.head? = some markerClose

instance (a b : Text) : Decidable (SeamMarker a b) :=
  inferInstanceAs (Decidable (_ ∧ _))

variable {a b : Text}

theorem SeamMarker.cons (h : SeamMarker a b) (c : Code) : SeamMarker (c :: a) b :=
  ⟨by rw [List.getLast?_cons, h.1, Option.getD_some], h.2⟩

/-- An open brace before a text opens no marker across the seam. -/
theorem not_seamMarker_markerOpen (a rest : Text) : ¬SeamMarker a (markerOpen :: rest) := by
  rintro ⟨-, hhead⟩
  exact absurd (Option.some.inj hhead) (by decide)

theorem not_opensMarker_append {c : Code} (hc : ¬OpensMarker c a)
    (hseam : ¬SeamMarker (c :: a) b) : ¬OpensMarker c (a ++ b) := by
  cases a with
  | nil =>
      rintro ⟨rfl, hhead⟩
      exact hseam ⟨rfl, hhead⟩
  | cons d a => exact hc

/-- Where no marker lies across the seam, a code opens a marker in both texts only if it does so in
the first. -/
@[elab_as_elim]
theorem seam_induction {motive : Text → Prop} (nil : motive [])
    (marker : ∀ rest, motive rest → motive (markerOpen :: markerClose :: rest))
    (literal : ∀ c rest, ¬OpensMarker c rest → ¬OpensMarker c (rest ++ b) → motive rest →
      motive (c :: rest))
    (h : ¬SeamMarker a b) : motive a := by
  induction a using marker_induction with
  | nil => exact nil
  | marker rest ih =>
      exact marker rest (ih fun hrest => h ((hrest.cons markerClose).cons markerOpen))
  | literal c rest hc ih =>
      exact literal c rest hc (not_opensMarker_append hc h) (ih fun hrest => h (hrest.cons c))

theorem escapeWith_append (group : Text) (h : ¬SeamMarker a b) :
    escapeWith group (a ++ b) = escapeWith group a ++ escapeWith group b := by
  refine seam_induction ?nil ?marker ?literal h
  case nil => rfl
  case marker =>
    intro rest ih
    rw [List.cons_append, List.cons_append, escapeWith_marker, escapeWith_marker, ih,
      List.append_assoc]
  case literal =>
    intro c rest hc hseam ih
    rw [List.cons_append, escapeWith_literal group hseam, escapeWith_literal group hc, ih,
      List.append_assoc]

theorem markerCount_append (h : ¬SeamMarker a b) :
    markerCount (a ++ b) = markerCount a + markerCount b := by
  refine seam_induction ?nil ?marker ?literal h
  case nil => rw [List.nil_append, markerCount_nil, Nat.zero_add]
  case marker =>
    intro rest ih
    rw [List.cons_append, List.cons_append, markerCount_marker, markerCount_marker, ih,
      Nat.add_right_comm]
  case literal =>
    intro c rest hc hseam ih
    rw [List.cons_append, markerCount_literal hseam, markerCount_literal hc, ih]

/-- The halves of a marker across a seam are the last code before it and the first after it. -/
theorem SeamMarker.exists_eq (h : SeamMarker a b) :
    ∃ front back, a = front ++ [markerOpen] ∧ b = markerClose :: back := by
  obtain ⟨front, rfl⟩ := List.getLast?_eq_some_iff.1 h.1
  obtain ⟨back, rfl⟩ := List.head?_eq_some_iff.1 h.2
  exact ⟨front, back, rfl, rfl⟩

theorem append_halves (front back : Text) :
    front ++ [markerOpen] ++ markerClose :: back = front ++ markerOpen :: markerClose :: back := by
  rw [List.append_assoc, List.singleton_append]

theorem escapeWith_append_eq (group a b : Text) :
    escapeWith group (a ++ b) =
      if SeamMarker a b then escapeWith group a.dropLast ++ group ++ escapeWith group b.tail
      else escapeWith group a ++ escapeWith group b := by
  split
  · next h =>
    obtain ⟨front, back, rfl, rfl⟩ := h.exists_eq
    rw [append_halves, escapeWith_append group (not_seamMarker_markerOpen front _),
      escapeWith_marker, List.dropLast_concat, List.tail_cons, List.append_assoc]
  · next h => exact escapeWith_append group h

theorem markerCount_append_eq (a b : Text) :
    markerCount (a ++ b) = markerCount a + markerCount b + if SeamMarker a b then 1 else 0 := by
  split
  · next h =>
    obtain ⟨front, back, rfl, rfl⟩ := h.exists_eq
    have hback : ¬OpensMarker markerClose back := fun h => absurd h.1 (by decide)
    rw [append_halves, markerCount_append (not_seamMarker_markerOpen front _),
      markerCount_append (not_seamMarker_markerOpen front []), markerCount_marker,
      markerCount_literal hback]
    rfl
  · next h => exact markerCount_append h

/-! ### Cutting at markers -/

/-- A text is cut at its markers: with markers in the gaps the pieces are the text, and none of them
holds a marker. -/
structure CutAtMarkers (t : Text) (ps : List Text) : Prop where
  nonempty : ps ≠ []
  joined : Text.join marker ps = t
  free : ∀ piece ∈ ps, ¬marker <:+: piece

theorem isInfix_cons_iff {c : Code} {piece : Text} :
    marker <:+: c :: piece ↔ OpensMarker c piece ∨ marker <:+: piece := by
  rw [List.infix_cons_iff, isPrefix_cons_iff_opensMarker]

theorem cutAtMarkers_pieces (t : Text) : CutAtMarkers t (pieces t) := by
  refine ⟨List.ne_nil_of_length_eq_add_one (length_pieces t), join_pieces t, ?_⟩
  induction t using marker_induction with
  | nil => simp [marker]
  | marker rest ih =>
      rw [pieces_marker]
      exact List.forall_mem_cons.2 ⟨by simp [marker], ih⟩
  | literal c rest hc ih =>
      obtain ⟨piece, others, hp⟩ := exists_pieces_eq_cons rest
      obtain ⟨after, hafter⟩ : piece <+: rest := by
        rw [← join_pieces rest, hp]
        exact Text.isPrefix_join marker piece others
      -- The first piece begins the rest, so what the code opens before it is opened in the text.
      have hopens : ¬OpensMarker c piece := by
        rintro ⟨rfl, hhead⟩
        exact hc ⟨rfl, by rw [← hafter, List.head?_append, hhead, Option.some_or]⟩
      rw [hp] at ih
      obtain ⟨hpiece, hothers⟩ := List.forall_mem_cons.1 ih
      rw [pieces_literal hc, hp, List.modifyHead_cons]
      exact List.forall_mem_cons.2 ⟨by simp [isInfix_cons_iff, hopens, hpiece], hothers⟩

theorem pieces_of_not_isInfix {piece : Text} (h : ¬marker <:+: piece) : pieces piece = [piece] := by
  induction piece with
  | nil => rfl
  | cons c piece ih =>
      rw [isInfix_cons_iff, not_or] at h
      rw [pieces_literal h.1, ih h.2, List.modifyHead_cons]

/-- What holds no marker is cut off before one. -/
theorem pieces_append_marker {piece : Text} (h : ¬marker <:+: piece) (rest : Text) :
    pieces (piece ++ markerOpen :: markerClose :: rest) = piece :: pieces rest := by
  induction piece with
  | nil => exact pieces_marker rest
  | cons c piece ih =>
      rw [isInfix_cons_iff, not_or] at h
      have hopens := not_opensMarker_append h.1
        (not_seamMarker_markerOpen (c :: piece) (markerClose :: rest))
      rw [List.cons_append, pieces_literal hopens, ih h.2, List.modifyHead_cons]

/-- There is one way to cut a text at its markers. -/
theorem eq_pieces_iff {t : Text} {ps : List Text} : ps = pieces t ↔ CutAtMarkers t ps := by
  constructor
  · rintro rfl
    exact cutAtMarkers_pieces t
  · rintro ⟨hne, rfl, hfree⟩
    -- A piece holds no marker, so the first marker of the text is the one that comes after it.
    induction ps with
    | nil => exact absurd rfl hne
    | cons piece ps ih =>
        obtain ⟨hpiece, hps⟩ := List.forall_mem_cons.1 hfree
        cases ps with
        | nil => exact (pieces_of_not_isInfix hpiece).symm
        | cons next ps =>
            have hcut := pieces_append_marker hpiece (Text.join marker (next :: ps))
            rw [← ih (List.cons_ne_nil _ _) hps] at hcut
            rw [Text.join_cons_cons, marker, List.append_assoc]
            exact hcut.symm

/-! ### The pieces escaped -/

/-- The pattern text of literal text, code by code. -/
def escapeLiteral (t : Text) : Text := t.flatMap escapeCode

theorem escapeLiteral_cons (c : Code) (t : Text) :
    escapeLiteral (c :: t) = escapeCode c ++ escapeLiteral t :=
  List.flatMap_cons

/-- The same value in every gap. -/
theorem fill_replicate (value : Text) {ps : List Text} {count : Nat}
    (h : ps.length = count + 1) : fill ps (List.replicate count value) = Text.join value ps := by
  induction count generalizing ps with
  | zero =>
      obtain ⟨piece, rfl⟩ := List.length_eq_one_iff.1 h
      exact List.append_nil piece
  | succ count ih =>
      obtain ⟨piece, ps, rfl⟩ := List.exists_cons_of_length_eq_add_one h
      obtain ⟨next, ps, rfl⟩ := List.exists_cons_of_length_eq_add_one (Nat.succ.inj h)
      rw [List.replicate_succ, fill, ih (Nat.succ.inj h), Text.join_cons_cons]

theorem escapeWith_eq_join (group t : Text) :
    escapeWith group t = Text.join group ((pieces t).map escapeLiteral) := by
  induction t using marker_induction with
  | nil => rfl
  | marker rest ih =>
      obtain ⟨piece, others, hp⟩ := exists_pieces_eq_cons rest
      rw [hp] at ih
      rw [escapeWith_marker, ih, pieces_marker, hp]
      rfl
  | literal c rest hc ih =>
      obtain ⟨piece, others, hp⟩ := exists_pieces_eq_cons rest
      rw [hp, List.map_cons] at ih
      rw [escapeWith_literal group hc, ih, pieces_literal hc, hp, List.modifyHead_cons,
        List.map_cons, escapeLiteral_cons, Text.join_append_cons]

/-- Whatever text stands for the markers, the pattern text of a template is made of the pieces
between its markers, escaped code by code, and of that text as it is in each gap. There are as many
gaps as places at which a marker stands, and one way to cut the template there. Two templates side
by side are escaped one by one, unless a marker lies across their seam. Then the text stands once
more, in the place of the two halves of that marker. -/
theorem escapeWith_pieces_and_seams (group : Text) :
    (∀ t, (∀ ps, ps = pieces t ↔ CutAtMarkers t ps) ∧
      (markerCount t = t.tails.countP fun rest => marker <+: rest) ∧
      (pieces t).length = markerCount t + 1 ∧
      escapeWith group t = Text.join group ((pieces t).map escapeLiteral) ∧
      escapeWith group t =
        fill ((pieces t).map escapeLiteral) (List.replicate (markerCount t) group)) ∧
    ∀ a b,
      (escapeWith group (a ++ b) =
        if SeamMarker a b then escapeWith group a.dropLast ++ group ++ escapeWith group b.tail
        else escapeWith group a ++ escapeWith group b) ∧
      markerCount (a ++ b) = markerCount a + markerCount b + if SeamMarker a b then 1 else 0 := by
  constructor
  · intro t
    have hlength : ((pieces t).map escapeLiteral).length = markerCount t + 1 := by
      rw [List.length_map, length_pieces]
    have hjoin := escapeWith_eq_join group t
    refine ⟨fun ps => eq_pieces_iff, markerCount_eq_countP_tails t, length_pieces t, hjoin, ?_⟩
    rw [fill_replicate group hlength, hjoin]
  · intro a b
    exact ⟨escapeWith_append_eq group a b, markerCount_append_eq a b⟩

/-- A group that holds a marker is not scanned, and the outer braces are literal. -/
example : escapeWith (Text.ofString "(\x7b\x7d)") (Text.ofString "\x7b\x7b\x7d\x7d") =
    Text.ofString "\\\x7b(\x7b\x7d)\\\x7d" := by decide

end LogHarvest.Template
