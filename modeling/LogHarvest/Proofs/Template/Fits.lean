import LogHarvest.Proofs.Template.Reading
import Mathlib.Data.List.Find

/-!
# The fits of a template

A message begins with a template in as many ways as there are words to put into the gaps. The fits
of a template are these choices of words, in the order in which greedy matching comes to them: the
first word as long as possible, then the second, and so on. `fits` finds them from the pieces of the
template without any matcher, and the pattern of the template has one way for each of them, with the
marks of its groups around the words. So the groups of a match are read off a list of words.
-/

namespace LogHarvest.Template

open Pattern

/-! ### Words at the front of a text -/

/-- The words at the front of a text, longest first. -/
def words (t : Text) : List Text := (runs Code.isWord t).filter (!·.isEmpty)

theorem mem_words {t word : Text} : word ∈ words t ↔ word.IsWord ∧ word <+: t := by
  simp only [words, List.mem_filter, mem_runs, Bool.not_eq_true', List.isEmpty_eq_false_iff]
  constructor
  · rintro ⟨⟨hstart, hcodes⟩, hne⟩
    exact ⟨⟨hne, hcodes⟩, hstart⟩
  · rintro ⟨hword, hstart⟩
    exact ⟨⟨hstart, hword.codes⟩, hword.nonempty⟩

theorem words_pairwise (t : Text) :
    (words t).Pairwise fun longer shorter => shorter.length < longer.length :=
  (runs_pairwise Code.isWord t).filter _

/-! ### Fits -/

/-- The words that may stand between pieces at the front of a message, in the order in which they
are tried. -/
def fits : List Text → Text → List (List Text)
  | [], _ => []
  | [piece], m => if piece <+: m then [[]] else []
  | piece :: next :: ps, m =>
    if piece <+: m then
      (words (m.drop piece.length)).flatMap fun word =>
        (fits (next :: ps) ((m.drop piece.length).drop word.length)).map (word :: ·)
    else []

/-- A fit is a word for each gap, such that the message begins with the filled pieces. -/
theorem mem_fits {ps : List Text} {m : Text} {values : List Text} :
    values ∈ fits ps m ↔
      ps.length = values.length + 1 ∧ (∀ value ∈ values, value.IsWord) ∧ fill ps values <+: m := by
  induction ps, m using fits.induct generalizing values with
  | case1 m => simp [fits]
  | case2 piece m h =>
      cases values <;> simp [fits, fill, h]
  | case3 piece m h =>
      cases values <;> simp [fits, fill, h]
  | case4 piece next ps m h ih =>
      obtain ⟨rest, rfl⟩ := h
      rw [List.drop_left] at ih
      cases values with
      | nil => simp [fits]
      | cons value values =>
          simp only [fits, List.prefix_append, if_true, List.drop_left, List.mem_flatMap,
            List.mem_map, List.cons.injEq, mem_words, List.length_cons, fill, List.append_assoc,
            List.prefix_append_right_inj, List.forall_mem_cons]
          constructor
          · rintro ⟨word, ⟨hword, after, rfl⟩, others, hothers, rfl, rfl⟩
            obtain ⟨hlen, hwords, hfill⟩ := (ih word).1 hothers
            rw [List.drop_left] at hfill
            exact ⟨congrArg (· + 1) hlen, ⟨hword, hwords⟩,
              (List.prefix_append_right_inj word).2 hfill⟩
          · rintro ⟨hlen, ⟨hvalue, hwords⟩, after, rfl⟩
            refine ⟨value, ⟨hvalue, ?_⟩, values, (ih value).2 ⟨by simpa using hlen, hwords, ?_⟩,
              rfl, rfl⟩
            · simp [List.append_assoc]
            · simp [List.append_assoc]
  | case5 piece next ps m h =>
      have hnone : ∀ rest, ¬piece ++ rest <+: m := fun rest hrest =>
        h ((List.prefix_append piece rest).trans hrest)
      cases values with
      | nil => simp [fits]
      | cons value values => simp [fits, fill, h, hnone]

/-- The fits of a template are the arguments that a message begins with. -/
theorem mem_fits_pieces {t m : Text} {values : List Text} :
    values ∈ fits (pieces t) m ↔ Arguments t values ∧ fill (pieces t) values <+: m := by
  rw [mem_fits, length_pieces]
  constructor
  · rintro ⟨hlen, hwords, hfill⟩
    exact ⟨⟨(Nat.add_right_cancel hlen).symm, hwords⟩, hfill⟩
  · rintro ⟨hargs, hfill⟩
    exact ⟨by rw [hargs.count], hargs.words, hfill⟩

/-- The fits come in the order of their lengths, from the lexicographically greatest on. -/
theorem fits_pairwise (ps : List Text) (m : Text) :
    (fits ps m).Pairwise fun earlier later => later.map List.length < earlier.map List.length := by
  induction ps, m using fits.induct with
  | case1 m => simp [fits]
  | case2 piece m h => simp [fits, h]
  | case3 piece m h => simp [fits, h]
  | case4 piece next ps m h ih =>
      rw [fits, if_pos h, List.pairwise_flatMap]
      constructor
      · intro word _
        rw [List.pairwise_map]
        refine (ih word).imp fun hlt => ?_
        exact List.cons_lt_cons_iff.2 (.inr ⟨rfl, hlt⟩)
      · refine (words_pairwise _).imp fun hlt values hvalues others hothers => ?_
        obtain ⟨values, -, rfl⟩ := List.mem_map.1 hvalues
        obtain ⟨others, -, rfl⟩ := List.mem_map.1 hothers
        exact List.cons_lt_cons_iff.2 (.inl hlt)
  | case5 piece next ps m h => simp [fits, h]

/-! ### Following a template from the left -/

theorem fits_pieces_marker (rest m : Text) :
    fits (pieces (markerOpen :: markerClose :: rest)) m =
      (words m).flatMap fun word => (fits (pieces rest) (m.drop word.length)).map (word :: ·) := by
  obtain ⟨piece, others, hp⟩ := exists_pieces_eq_cons rest
  rw [pieces_marker, hp, fits, if_pos List.nil_prefix]
  rfl

theorem fits_modifyHead_cons (c : Code) {ps : List Text} (hps : ps ≠ []) (m : Text) :
    fits (ps.modifyHead (c :: ·)) (c :: m) = fits ps m := by
  obtain ⟨piece, others, rfl⟩ := List.exists_cons_of_ne_nil hps
  rw [List.modifyHead_cons]
  cases others <;> simp [fits]

theorem fits_modifyHead_of_mismatch {c : Code} {ps : List Text} {m : Text}
    (h : ¬[c] <+: m) : fits (ps.modifyHead (c :: ·)) m = [] := by
  rw [List.eq_nil_iff_forall_not_mem]
  intro values hvalues
  obtain ⟨hlen, -, hfill⟩ := mem_fits.1 hvalues
  have hps : ps ≠ [] := by
    rintro rfl
    simp at hlen
  rw [fill_modifyHead c hps] at hfill
  exact h ((List.prefix_append [c] _).trans hfill)

/-! ### Marks -/

/-- The marks of the words in the gaps between pieces that begin at an offset. -/
def marks : (offset : Nat) → List Text → List Text → List Mark
  | offset, piece :: ps, value :: values =>
    ⟨some (offset + piece.length), some (offset + piece.length + value.length)⟩ ::
      marks (offset + piece.length + value.length) ps values
  | _, _, _ => []

theorem marks_pieces_marker (offset : Nat) (rest value : Text) (values : List Text) :
    marks offset (pieces (markerOpen :: markerClose :: rest)) (value :: values) =
      ⟨some offset, some (offset + value.length)⟩ ::
        marks (offset + value.length) (pieces rest) values := by
  rw [pieces_marker, marks]
  rfl

theorem marks_modifyHead (c : Code) (offset : Nat) (ps values : List Text) :
    marks offset (ps.modifyHead (c :: ·)) values = marks (offset + 1) ps values := by
  cases ps with
  | nil => rfl
  | cons piece ps =>
      cases values with
      | nil => rfl
      | cons value values =>
          simp only [List.modifyHead_cons, marks, List.length_cons]
          grind

theorem modify_length_append {α : Type} (xs ys : List α) (a : α) (f : α → α) :
    (xs ++ a :: ys).modify xs.length f = xs ++ f a :: ys := by
  induction xs with
  | nil => rfl
  | cons x xs ih => rw [List.cons_append, List.length_cons, List.modify_succ_cons, ih]; rfl

/-- Entering and leaving the first group that has taken no part marks it. -/
theorem leave_enter (done : Captures) (offset stop count : Nat) :
    ((done ++ List.replicate (count + 1) Mark.none : Captures).enter (done.length + 1) offset).leave
        (done.length + 1) stop =
      done ++ [⟨some offset, some stop⟩] ++ List.replicate count Mark.none := by
  rw [Captures.enter, Captures.leave, List.replicate_succ, Nat.add_sub_cancel,
    modify_length_append, modify_length_append, List.append_assoc, List.singleton_append]

/-- The ways of a template's expressions are its fits, each with its groups marked around its
words. -/
theorem ways_exprs (t : Text) (cur : Cursor) (done : Captures) :
    (Expr.ofList (exprs done.length t)).ways cur
        (done ++ List.replicate (markerCount t) Mark.none) =
      (fits (pieces t) cur.after).map fun values =>
        (cur.past (fill (pieces t) values), done ++ marks cur.offset (pieces t) values) := by
  induction t using marker_induction generalizing cur done with
  | nil => simp [fits, fill, marks, Expr.ofList, Expr.ways]
  | marker rest ih =>
      rw [exprs_marker, Expr.ways_ofList_cons, Ways.andThen, Expr.ways_wordGroup,
        markerCount_marker, fits_pieces_marker, List.flatMap_map, List.map_flatMap]
      refine List.flatMap_congr fun word _ => ?_
      rw [leave_enter]
      have hrest := ih (cur.past word)
        (done ++ [⟨some cur.offset, some (cur.offset + word.length)⟩])
      rw [List.length_append, List.length_singleton] at hrest
      rw [hrest, List.map_map]
      refine List.map_congr_left fun values _ => ?_
      simp only [Function.comp, Cursor.past_past, fill_pieces_marker, marks_pieces_marker,
        List.append_assoc, List.singleton_append]
      rfl
  | literal c rest h ih =>
      have hne : pieces rest ≠ [] := List.ne_nil_of_length_eq_add_one (length_pieces rest)
      rw [exprs_literal _ h, Expr.ways_ofList_cons, Ways.andThen, Expr.ways_literal,
        markerCount_literal h, pieces_literal h]
      split
      · next hstart =>
        obtain ⟨after, hafter⟩ := hstart
        rw [List.flatMap_cons, List.flatMap_nil, List.append_nil, ih, ← hafter]
        rw [List.singleton_append, fits_modifyHead_cons c hne,
          Cursor.after_past_singleton hafter.symm]
        refine List.map_congr_left fun values _ => ?_
        rw [Cursor.past_past, fill_modifyHead c hne, marks_modifyHead]
        rfl
      · next hstart =>
        rw [fits_modifyHead_of_mismatch hstart]
        rfl

theorem text?_mark (before value after : Text) :
    Mark.text? ⟨some before.length, some (before.length + value.length)⟩
      (before ++ value ++ after) = some value := by
  simp [Mark.text?, Mark.bounds?]

/-- The marks around the words of a message hold these words. -/
theorem text?_marks {ps values : List Text} (before after : Text)
    (hlen : ps.length = values.length + 1) :
    (marks before.length ps values).map (Mark.text? · (before ++ fill ps values ++ after)) =
      values.map some := by
  induction ps generalizing values before with
  | nil => simp at hlen
  | cons piece ps ih =>
      cases values with
      | nil => rfl
      | cons value values =>
          have hmessage : before ++ fill (piece :: ps) (value :: values) ++ after =
              before ++ piece ++ value ++ fill ps values ++ after := by
            simp only [fill, List.append_assoc]
          have hfirst := text?_mark (before ++ piece) value (fill ps values ++ after)
          have hrest := ih (before ++ piece ++ value) (by simpa using hlen)
          rw [← List.append_assoc] at hfirst
          rw [@List.length_append _ (before ++ piece)] at hrest
          rw [hmessage, marks, ← List.length_append, List.map_cons, List.map_cons, hfirst, hrest]

/-! ### Matches -/

/-- A match of a template's pattern is the first fit that leaves nothing of the message. -/
theorem fullMatch?_pattern (t m : Text) :
    (pattern t).fullMatch? m =
      ((fits (pieces t) m).find? fun values => fill (pieces t) values = m).map
        (List.map some) := by
  have hways := ways_exprs t (Cursor.start m) []
  simp only [List.length_nil, List.nil_append] at hways
  have hends : (fits (pieces t) m).find?
      (fun values => ((Cursor.start m).past (fill (pieces t) values)).after.isEmpty) =
      (fits (pieces t) m).find? fun values => fill (pieces t) values = m := by
    refine List.find?_congr fun values hvalues => ?_
    obtain ⟨-, -, rest, rfl⟩ := mem_fits.1 hvalues
    cases rest <;> simp [Cursor.start, Cursor.past]
  calc (pattern t).fullMatch? m
      = ((fits (pieces t) m).find? fun values =>
          ((Cursor.start m).past (fill (pieces t) values)).after.isEmpty).map fun values =>
            (marks 0 (pieces t) values).map (Mark.text? · m) := by
        rw [Pattern.fullMatch?, Expr.fullMatch?_eq_find?, pattern, Captures.start, hways,
          List.find?_map, Option.map_map]
        rfl
    _ = _ := by
        rw [hends]
        cases hfound : (fits (pieces t) m).find? fun values => fill (pieces t) values = m with
        | none => rfl
        | some values =>
            obtain ⟨hlen, -, -⟩ := mem_fits.1 (List.mem_of_find?_eq_some hfound)
            have hm : fill (pieces t) values = m := by simpa using List.find?_some hfound
            have htexts := text?_marks [] [] hlen
            rw [List.nil_append, List.append_nil, hm] at htexts
            exact congrArg some htexts

end LogHarvest.Template
