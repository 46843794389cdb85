import LogHarvest.Proofs.Text.Lines
import Mathlib.Data.List.Chain

/-!
# Texts with terminators of all kinds

A text can be cut anywhere but inside a carriage return and its line feed, and its terminators are
written as line feeds piece by piece. So the lines of a text that gets something before each of its
lines but the first are its lines with that before them.
-/

namespace LogHarvest.Text

/-! ### One terminator at a time -/

theorem normalizeAfter_true {t : Text} (h : t.head? ≠ some '\n') :
    normalizeAfter true t = normalizeNewlines t := by
  cases t with
  | nil => rfl
  | cons c rest =>
      have hc : c ≠ '\n' := by simpa using h
      simp [normalizeNewlines, normalizeAfter, hc]

theorem normalizeNewlines_feed (t : Text) :
    normalizeNewlines (('\n' : Code) :: t) = ('\n' : Code) :: normalizeNewlines t := rfl

theorem normalizeNewlines_returnFeed (t : Text) :
    normalizeNewlines (('\r' : Code) :: ('\n' : Code) :: t) =
      ('\n' : Code) :: normalizeNewlines t := rfl

theorem normalizeNewlines_return {t : Text} (h : t.head? ≠ some '\n') :
    normalizeNewlines (('\r' : Code) :: t) = ('\n' : Code) :: normalizeNewlines t :=
  congrArg (('\n' : Code) :: ·) (normalizeAfter_true h)

theorem normalizeNewlines_cons {c : Code} (hreturn : c ≠ '\r') (t : Text) :
    normalizeNewlines (c :: t) = c :: normalizeNewlines t := by
  rw [normalizeNewlines, normalizeAfter, if_neg hreturn, if_neg (by simp), normalizeNewlines]

theorem normalizeNewlines_of_isLine {t : Text} (h : t.IsLine) : normalizeNewlines t = t :=
  normalizeAfter_of_notMem h.noReturn

/-- Induction on a text by the code or the terminator at its front. -/
theorem terminator_induction {motive : Text → Prop} (nil : motive [])
    (feed : ∀ t : Text, motive t → motive (('\n' : Code) :: t))
    (returnFeed : ∀ t : Text, motive t → motive (('\r' : Code) :: ('\n' : Code) :: t))
    (ret : ∀ t : Text, t.head? ≠ some ('\n' : Code) → motive t → motive (('\r' : Code) :: t))
    (other : ∀ (c : Code) (t : Text), c ≠ '\r' → c ≠ '\n' → motive t → motive (c :: t)) :
    ∀ t, motive t
  | [] => nil
  | c :: rest => by
      by_cases hfeed : c = '\n'
      · subst hfeed
        exact feed rest (terminator_induction nil feed returnFeed ret other rest)
      · by_cases hreturn : c = '\r'
        · subst hreturn
          by_cases hhead : rest.head? = some ('\n' : Code)
          · match rest, hhead with
            | _ :: rest, rfl =>
                exact returnFeed rest (terminator_induction nil feed returnFeed ret other rest)
          · exact ret rest hhead (terminator_induction nil feed returnFeed ret other rest)
        · exact other c rest hreturn hfeed
            (terminator_induction nil feed returnFeed ret other rest)

/-! ### Cutting a text -/

theorem normalizeNewlines_append {s t : Text}
    (h : s.getLast? = some ('\r' : Code) → t.head? ≠ some ('\n' : Code)) :
    normalizeNewlines (s ++ t) = normalizeNewlines s ++ normalizeNewlines t := by
  induction s using terminator_induction with
  | nil => rfl
  | feed s ih =>
      rw [List.cons_append, normalizeNewlines_feed, normalizeNewlines_feed, List.cons_append,
        ih fun hlast => h (by simp [List.getLast?_cons, hlast])]
  | returnFeed s ih =>
      rw [List.cons_append, List.cons_append, normalizeNewlines_returnFeed,
        normalizeNewlines_returnFeed, List.cons_append,
        ih fun hlast => h (by simp [List.getLast?_cons, hlast])]
  | ret s hhead ih =>
      have hnext : (s ++ t).head? ≠ some ('\n' : Code) := by
        cases s with
        | nil => exact h rfl
        | cons c s => exact hhead
      rw [List.cons_append, normalizeNewlines_return hnext, normalizeNewlines_return hhead,
        List.cons_append, ih fun hlast => h (by simp [List.getLast?_cons, hlast])]
  | other c s hreturn hfeed ih =>
      rw [List.cons_append, normalizeNewlines_cons hreturn, normalizeNewlines_cons hreturn,
        List.cons_append, ih fun hlast => h (by simp [List.getLast?_cons, hlast])]

theorem getLast_ne_return {t : Text} (h : t.IsLine) : t.getLast? ≠ some ('\r' : Code) :=
  fun hlast => h.noReturn (List.mem_of_getLast? hlast)

/-- A line that is put before a text goes on with the first line of the text. -/
theorem splitOn_normalizeNewlines_append {line t first : Text} {lines : List Text}
    (hline : line.IsLine) (h : splitOn '\n' (normalizeNewlines t) = first :: lines) :
    splitOn '\n' (normalizeNewlines (line ++ t)) = (line ++ first) :: lines := by
  rw [normalizeNewlines_append fun hlast => absurd hlast (getLast_ne_return hline),
    normalizeNewlines_of_isLine hline]
  have hfeed := hline.noFeed
  clear hline
  induction line with
  | nil => exact h
  | cons c line ih =>
      obtain ⟨hc, hrest⟩ := List.ne_and_not_mem_of_not_mem_cons hfeed
      exact splitOn_cons_ne (Ne.symm hc) (ih hrest)

/-- A code after some text ends a line there: it is a carriage return, or a line feed that is not
part of the terminator before it. -/
def EndsLine (before : Text) (terminator : Code) : Prop :=
  terminator = '\r' ∨ terminator = '\n' ∧ before.getLast? ≠ some ('\r' : Code)

variable {before pad after : Text} {terminator : Code}

theorem EndsLine.normalizeNewlines_append (h : EndsLine before terminator) (after : Text) :
    normalizeNewlines (before ++ terminator :: after) =
      normalizeNewlines before ++ normalizeNewlines (terminator :: after) := by
  refine Text.normalizeNewlines_append fun hlast hhead => ?_
  obtain rfl | ⟨-, hbefore⟩ := h
  · exact absurd (Option.some.inj hhead) (by decide)
  · exact hbefore hlast

theorem EndsLine.append (h : EndsLine before terminator) (hpad : pad.IsLine) :
    EndsLine (before ++ pad) terminator := by
  refine h.imp_right fun ⟨hfeed, hbefore⟩ => ⟨hfeed, ?_⟩
  rw [List.getLast?_append]
  cases hlast : pad.getLast? with
  | none => exact hbefore
  | some c =>
      rintro ⟨⟩
      exact hpad.noReturn (List.mem_of_getLast? hlast)

/-- What is put before the end of a line is the end of that line. -/
theorem exists_splitOn_pad (h : EndsLine before terminator) (hpad : pad.IsLine) (after : Text) :
    ∃ lines line others, others ≠ [] ∧
      splitOn '\n' (normalizeNewlines (before ++ terminator :: after)) = lines ++ line :: others ∧
      splitOn '\n' (normalizeNewlines (before ++ pad ++ terminator :: after)) =
        lines ++ (line ++ pad) :: others := by
  obtain ⟨others, hothers⟩ : ∃ others,
      normalizeNewlines (terminator :: after) = ('\n' : Code) :: others := by
    obtain rfl | ⟨rfl, -⟩ := h
    · exact ⟨_, rfl⟩
    · exact ⟨_, rfl⟩
  have hnext : pad.head? ≠ some ('\n' : Code) :=
    fun hhead => hpad.noFeed (List.mem_of_head? hhead)
  obtain ⟨lines, line, hline, hwide⟩ :=
    exists_splitOn_append before.normalizeNewlines hpad.noFeed
  refine ⟨lines, line, splitOn '\n' others, splitOn_ne_nil _ _, ?_, ?_⟩
  · rw [h.normalizeNewlines_append, hothers, splitOn_append_cons, hline, List.append_assoc,
      List.singleton_append]
  · rw [(h.append hpad).normalizeNewlines_append, hothers,
      Text.normalizeNewlines_append fun _ => hnext, normalizeNewlines_of_isLine hpad,
      splitOn_append_cons, hwide, List.append_assoc, List.singleton_append]

/-! ### Lines that are indented -/

/-- The text with something before each of its lines but the first. -/
def indentLines (pad : Text) : Text → Text
  | [] => []
  | c :: rest =>
    if c = '\n' ∨ c = '\r' ∧ rest.head? ≠ some ('\n' : Code) then
      c :: (pad ++ indentLines pad rest)
    else c :: indentLines pad rest

theorem head_indentLines (pad t : Text) : (indentLines pad t).head? = t.head? := by
  cases t with
  | nil => rfl
  | cons c rest =>
      rw [indentLines]
      split <;> rfl

theorem splitOn_indentLines (hpad : pad.IsLine) {t first : Text} {lines : List Text}
    (h : splitOn '\n' (normalizeNewlines t) = first :: lines) :
    splitOn '\n' (normalizeNewlines (indentLines pad t)) = first :: lines.map (pad ++ ·) := by
  -- A terminator before a text begins the line that the text goes on with.
  have hline {t : Text}
      (ih : ∀ {first : Text} {lines : List Text},
        splitOn '\n' (normalizeNewlines t) = first :: lines →
        splitOn '\n' (normalizeNewlines (indentLines pad t)) = first :: lines.map (pad ++ ·)) :
      splitOn '\n' (normalizeNewlines (pad ++ indentLines pad t)) =
        (splitOn '\n' (normalizeNewlines t)).map (pad ++ ·) := by
    obtain ⟨first, lines, ht⟩ :=
      List.exists_cons_of_ne_nil (splitOn_ne_nil '\n' t.normalizeNewlines)
    rw [splitOn_normalizeNewlines_append hpad (ih ht), ht, List.map_cons]
  have hfeed (t : Text) : splitOn '\n' (('\n' : Code) :: t) = [] :: splitOn '\n' t := if_pos rfl
  induction t using terminator_induction generalizing first lines with
  | nil =>
      obtain ⟨rfl, rfl⟩ := List.cons.inj (h : [[]] = _)
      rfl
  | feed t ih =>
      rw [normalizeNewlines_feed, hfeed] at h
      obtain ⟨rfl, rfl⟩ := List.cons.inj h
      rw [indentLines, if_pos (.inl rfl), normalizeNewlines_feed, hfeed, hline ih]
  | returnFeed t ih =>
      rw [normalizeNewlines_returnFeed, hfeed] at h
      obtain ⟨rfl, rfl⟩ := List.cons.inj h
      rw [indentLines, if_neg (by simp), indentLines, if_pos (.inl rfl),
        normalizeNewlines_returnFeed, hfeed, hline ih]
  | ret t hhead ih =>
      rw [normalizeNewlines_return hhead, hfeed] at h
      obtain ⟨rfl, rfl⟩ := List.cons.inj h
      have hnext : (pad ++ indentLines pad t).head? ≠ some ('\n' : Code) := by
        cases pad with
        | nil => rwa [List.nil_append, head_indentLines]
        | cons c pad =>
            refine fun hc => hpad.noFeed ?_
            rw [← Option.some.inj hc]
            exact List.mem_cons_self
      rw [indentLines, if_pos (.inr ⟨rfl, hhead⟩), normalizeNewlines_return hnext, hfeed, hline ih]
  | other c t hreturn hne ih =>
      obtain ⟨first', lines', ht⟩ :=
        List.exists_cons_of_ne_nil (splitOn_ne_nil '\n' t.normalizeNewlines)
      rw [normalizeNewlines_cons hreturn, splitOn_cons_ne hne ht] at h
      obtain ⟨rfl, rfl⟩ := List.cons.inj h
      rw [indentLines, if_neg (by simp [hne, hreturn]), normalizeNewlines_cons hreturn,
        splitOn_cons_ne hne (ih ht)]

/-! ### Lines that are written -/

/-- What a line can be ended with. -/
inductive Terminator where
  | feed
  | returnFeed
  | ret
deriving DecidableEq

def Terminator.text : Terminator → Text
  | .feed => ['\n']
  | .returnFeed => ['\r', '\n']
  | .ret => ['\r']

/-- Some lines, each with the terminator before it. -/
def ruled (rows : List (Terminator × Text)) : Text := rows.flatMap fun row => row.1.text ++ row.2

/-- Nowhere do a carriage return and a line feed that were meant for two terminators make one. -/
def Apart (rows : List (Terminator × Text)) : Prop :=
  rows.IsChain fun row next => row.1 = .ret → row.2 = [] → next.1 ≠ .feed

theorem apart_of_same (terminator : Terminator) (lines : List Text) :
    Apart (lines.map (terminator, ·)) := by
  refine List.Pairwise.isChain (List.pairwise_map.2 (List.pairwise_of_forall fun _ _ => ?_))
  intro hret _ hfeed
  exact absurd (hret.symm.trans hfeed) (by decide)

theorem head_ruled_ne_feed {terminator : Terminator} {rows : List (Terminator × Text)}
    (h : Apart ((terminator, []) :: rows)) (hret : terminator = .ret) :
    (ruled rows).head? ≠ some ('\n' : Code) := by
  cases rows with
  | nil => simp [ruled]
  | cons row rows =>
      have hnext := (List.isChain_cons_cons.1 h).1 hret rfl
      cases hrow : row.1 with
      | feed => exact absurd hrow hnext
      | returnFeed => simp [ruled, hrow, Terminator.text]
      | ret => simp [ruled, hrow, Terminator.text]

/-- The lines are found again, whatever they are ended with. -/
theorem splitOn_ruled {rows : List (Terminator × Text)} (hlines : ∀ row ∈ rows, row.2.IsLine)
    (h : Apart rows) :
    splitOn '\n' (normalizeNewlines (ruled rows)) = [] :: rows.map Prod.snd := by
  induction rows with
  | nil => rfl
  | cons row rows ih =>
      obtain ⟨terminator, line⟩ := row
      obtain ⟨hline, hrest⟩ := List.forall_mem_cons.1 hlines
      have hfeed (t : Text) : splitOn '\n' (('\n' : Code) :: t) = [] :: splitOn '\n' t := if_pos rfl
      have hrows := splitOn_normalizeNewlines_append hline (ih hrest h.tail)
      rw [List.append_nil] at hrows
      have hruled : ruled ((terminator, line) :: rows) =
          terminator.text ++ (line ++ ruled rows) := by
        simp [ruled]
      rw [hruled, List.map_cons, ← hrows]
      cases terminator with
      | feed => exact hfeed _
      | returnFeed => exact hfeed _
      | ret =>
          have hnext : (line ++ ruled rows).head? ≠ some ('\n' : Code) := by
            cases line with
            | nil => exact head_ruled_ne_feed h rfl
            | cons c line =>
                refine fun hc => hline.noFeed ?_
                rw [← Option.some.inj hc]
                exact List.mem_cons_self
          refine (congrArg (splitOn '\n') (normalizeNewlines_return hnext)).trans (hfeed _)

end LogHarvest.Text
