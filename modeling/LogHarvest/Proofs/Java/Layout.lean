import LogHarvest.Java.Literal
import LogHarvest.Proofs.Text.Terminators
import LogHarvest.Proofs.Text.Trim
import Mathlib.Logic.Relation

/-!
# The layout of text blocks

The text of a block hangs on the distances between its lines and not on where they stand: indenting
all lines alike, blanks after a line and another kind of terminator leave it as it is. What is left
when the layout has been removed has no layout any more, so removing it again changes nothing.
-/

namespace LogHarvest.Java.Literal

/-! ### Indentations -/

theorem isBlank_of_isIndent {c : Code} (h : isIndent c = true) : c.isBlank = true := by
  obtain rfl | rfl : c = ' ' ∨ c = '\t' := by simpa [isIndent] using h
  · rfl
  · rfl

/-- A run of spaces and tabs. -/
def IsIndentation (t : Text) : Prop := ∀ c ∈ t, isIndent c = true

instance : DecidablePred IsIndentation := fun t =>
  inferInstanceAs (Decidable (∀ c ∈ t, isIndent c = true))

variable {pad line : Text} {lines rest : List Text} {n : Nat}

theorem IsIndentation.isLine (h : IsIndentation pad) : pad.IsLine :=
  ⟨fun hc => absurd (h _ hc) (by decide), fun hc => absurd (h _ hc) (by decide)⟩

theorem IsIndentation.isBlank (h : IsIndentation pad) : pad.isBlank = true :=
  List.all_eq_true.2 fun c hc => isBlank_of_isIndent (h c hc)

theorem IsIndentation.isBlank_append (h : IsIndentation pad) (line : Text) :
    Text.isBlank (pad ++ line) = line.isBlank := by
  rw [Text.isBlank, List.all_append, ← Text.isBlank, h.isBlank, Bool.true_and, Text.isBlank]

theorem IsIndentation.append_isBlank (h : IsIndentation pad) (line : Text) :
    Text.isBlank (line ++ pad) = line.isBlank := by
  rw [Text.isBlank, List.all_append, ← Text.isBlank, ← Text.isBlank, h.isBlank, Bool.and_true]

theorem IsIndentation.indentLength_append (h : IsIndentation pad) (line : Text) :
    indentLength (pad ++ line) = pad.length + indentLength line := by
  rw [indentLength, List.takeWhile_append_of_pos h, List.length_append, indentLength]

/-- A line that is not blank has a first code after its indentation. -/
theorem exists_indent_append (h : line.isBlank = false) :
    ∃ (front : Text) (c : Code) (others : Text), line = front ++ c :: others ∧ IsIndentation front ∧
      isIndent c = false := by
  have hne : line.dropWhile isIndent ≠ [] := by
    intro hnil
    have hall : line.isBlank = true := List.all_eq_true.2 fun c hc =>
      isBlank_of_isIndent (List.dropWhile_eq_nil_iff.1 hnil c hc)
    simp [hall] at h
  obtain ⟨c, others, hdrop⟩ := List.exists_cons_of_ne_nil hne
  refine ⟨line.takeWhile isIndent, c, others, ?_, fun d hd => List.mem_takeWhile_imp hd, ?_⟩
  · rw [← hdrop, List.takeWhile_append_dropWhile]
  · have hhead := List.head?_dropWhile_not isIndent line
    rw [hdrop] at hhead
    exact hhead

theorem indentLength_of_front {front : Text} {c : Code} {others : Text} (h : IsIndentation front)
    (hc : isIndent c = false) : indentLength (front ++ c :: others) = front.length := by
  rw [h.indentLength_append, indentLength, List.takeWhile_cons_of_neg (by simp [hc])]
  rfl

/-- Blanks after a line that is not blank are no part of its indentation. -/
theorem indentLength_append_of_not_isBlank (h : line.isBlank = false) (pad : Text) :
    indentLength (line ++ pad) = indentLength line := by
  obtain ⟨front, c, others, rfl, hfront, hc⟩ := exists_indent_append h
  rw [List.append_assoc, List.cons_append, indentLength_of_front hfront hc,
    indentLength_of_front hfront hc]

/-! ### The common indentation -/

theorem indentedLines_cons (line : Text) (h : rest ≠ []) :
    indentedLines (line :: rest) =
      if line.isBlank then indentedLines rest else line :: indentedLines rest := by
  cases rest with
  | nil => exact absurd rfl h
  | cons next rest => rfl

theorem indentedLines_ne_nil (h : lines ≠ []) : indentedLines lines ≠ [] := by
  induction lines with
  | nil => exact absurd rfl h
  | cons line rest ih =>
      by_cases hrest : rest = []
      · rw [hrest]
        exact List.cons_ne_nil line []
      · rw [indentedLines_cons line hrest]
        split
        · exact ih hrest
        · exact List.cons_ne_nil _ _

/-- Lines before others count if they are not blank. -/
theorem indentedLines_append (lines : List Text) (h : rest ≠ []) :
    indentedLines (lines ++ rest) =
      lines.filter (fun line => !line.isBlank) ++ indentedLines rest := by
  induction lines with
  | nil => rfl
  | cons line lines ih =>
      rw [List.cons_append, indentedLines_cons line (List.append_ne_nil_of_right_ne_nil lines h),
        ih, List.filter_cons]
      cases line.isBlank <;> rfl

/-- Lines that change and stay blank or not, each as it was, count as before. -/
theorem indentedLines_map {f : Text → Text} (h : ∀ line ∈ lines, (f line).isBlank = line.isBlank) :
    indentedLines (lines.map f) = (indentedLines lines).map f := by
  induction lines with
  | nil => rfl
  | cons line rest ih =>
      obtain ⟨hline, hrest⟩ := List.forall_mem_cons.1 h
      by_cases hnil : rest = []
      · rw [hnil]
        rfl
      · rw [List.map_cons, indentedLines_cons line hnil,
          indentedLines_cons _ (by simpa using hnil), hline, ih hrest]
        split <;> rfl

theorem mem_indentedLines (hline : line ∈ lines) (h : line.isBlank = false) :
    line ∈ indentedLines lines := by
  obtain ⟨before, after, rfl⟩ := List.append_of_mem hline
  rw [indentedLines_append before (List.cons_ne_nil line after)]
  refine List.mem_append_right _ ?_
  by_cases hnil : after = []
  · rw [hnil]
    exact List.mem_singleton_self line
  · rw [indentedLines_cons line hnil, h]
    exact List.mem_cons_self

/-- The common indentation is that of some line which counts, and no such line has less. -/
theorem commonIndent_eq_iff (h : lines ≠ []) :
    commonIndent lines = n ↔ (∃ line ∈ indentedLines lines, indentLength line = n) ∧
      ∀ line ∈ indentedLines lines, n ≤ indentLength line := by
  have hne : (indentedLines lines).map indentLength ≠ [] := by
    simpa using indentedLines_ne_nil h
  obtain ⟨least, hleast⟩ := Option.ne_none_iff_exists'.1 fun hnone =>
    hne (List.min?_eq_none_iff.1 hnone)
  have hiff : commonIndent lines = n ↔ ((indentedLines lines).map indentLength).min? = some n := by
    rw [commonIndent, hleast, Option.getD_some, Option.some.injEq]
  rw [hiff, List.min?_eq_some_iff, List.mem_map]
  simp only [List.forall_mem_map]

theorem commonIndent_le (hline : line ∈ lines) (h : line.isBlank = false) :
    commonIndent lines ≤ indentLength line :=
  ((commonIndent_eq_iff (List.ne_nil_of_mem hline)).1 rfl).2 line (mem_indentedLines hline h)

/-! ### Stripped lines -/

theorem stripLine_of_isBlank (h : line.isBlank = true) : stripLine n line = [] := if_pos h

theorem stripLine_of_not_isBlank (h : line.isBlank = false) :
    stripLine n line = Text.dropRightWhile isIndent (line.drop n) := by
  rw [stripLine, h]
  rfl

theorem isIndentation_take (h : n ≤ indentLength line) : IsIndentation (line.take n) := by
  intro c hc
  have htake : line.take n = (line.takeWhile isIndent).take n := by
    conv_lhs => rw [← List.takeWhile_append_dropWhile (p := isIndent) (l := line)]
    exact List.take_append_of_le_length h
  rw [htake] at hc
  exact List.mem_takeWhile_imp (List.mem_of_mem_take hc)

/-- What is dropped at the end of a text is a run of spaces and tabs. -/
theorem exists_eq_dropRightWhile_indent (t : Text) :
    ∃ pad, IsIndentation pad ∧ t = Text.dropRightWhile isIndent t ++ pad := by
  obtain ⟨pad, ht, hpad⟩ := Text.exists_eq_dropRightWhile_append isIndent t
  exact ⟨pad, hpad, ht⟩

theorem isBlank_drop (h : n ≤ indentLength line) : Text.isBlank (line.drop n) = line.isBlank := by
  conv_rhs => rw [← List.take_append_drop n line]
  exact ((isIndentation_take h).isBlank_append _).symm

theorem isBlank_dropRightWhile (t : Text) :
    (Text.dropRightWhile isIndent t).isBlank = t.isBlank := by
  obtain ⟨pad, hpad, ht⟩ := exists_eq_dropRightWhile_indent t
  conv_rhs => rw [ht]
  exact (hpad.append_isBlank _).symm

theorem isBlank_stripLine (h : line.isBlank = false → n ≤ indentLength line) :
    (stripLine n line).isBlank = line.isBlank := by
  cases hblank : line.isBlank with
  | true => rw [stripLine_of_isBlank hblank]; rfl
  | false =>
      rw [stripLine_of_not_isBlank hblank, isBlank_dropRightWhile, isBlank_drop (h hblank), hblank]

theorem indentLength_stripLine (h : line.isBlank = false) (hn : n ≤ indentLength line) :
    indentLength (stripLine n line) = indentLength line - n := by
  have hlength : n ≤ line.length := Nat.le_trans hn (List.takeWhile_sublist _).length_le
  have hdrop : indentLength line = n + indentLength (line.drop n) := by
    conv_lhs => rw [← List.take_append_drop n line]
    rw [(isIndentation_take hn).indentLength_append, List.length_take, Nat.min_eq_left hlength]
  obtain ⟨pad, -, hend⟩ := exists_eq_dropRightWhile_indent (line.drop n)
  have hkept : (Text.dropRightWhile isIndent (line.drop n)).isBlank = false := by
    rw [isBlank_dropRightWhile, isBlank_drop hn, h]
  have hsame := indentLength_append_of_not_isBlank hkept pad
  rw [← hend] at hsame
  rw [stripLine_of_not_isBlank h, ← hsame]
  omega

theorem getLast_stripLine {c : Code} (hc : c ∈ (stripLine n line).getLast?) :
    isIndent c = false := by
  cases hblank : line.isBlank with
  | true => simp [stripLine_of_isBlank hblank] at hc
  | false =>
      rw [stripLine_of_not_isBlank hblank] at hc
      obtain ⟨hne, rfl⟩ := List.mem_getLast?_eq_getLast hc
      exact Bool.eq_false_iff.2 (List.rdropWhile_last_not isIndent _ hne)

theorem mem_of_mem_stripLine {c : Code} (hc : c ∈ stripLine n line) : c ∈ line := by
  rw [stripLine] at hc
  split at hc
  · simp at hc
  · exact List.mem_of_mem_drop (Text.mem_of_mem_dropRightWhile hc)

theorem dropRightWhile_indent_eq_self (h : ∀ c ∈ line.getLast?, isIndent c = false) :
    Text.dropRightWhile isIndent line = line := by
  rw [Text.dropRightWhile_eq, List.rdropWhile_eq_self_iff]
  intro hne
  rw [h _ (List.getLast_mem_getLast? hne)]
  exact Bool.false_ne_true

theorem stripLine_zero (hblank : line.isBlank = true → line = [])
    (hlast : ∀ c ∈ line.getLast?, isIndent c = false) : stripLine 0 line = line := by
  cases h : line.isBlank with
  | true => rw [stripLine_of_isBlank h, hblank h]
  | false =>
      rw [stripLine_of_not_isBlank h, List.drop_zero, dropRightWhile_indent_eq_self hlast]

/-! ### Stripping all lines -/

/-- Lines without their common indentation and without the blanks at their ends. -/
def stripLines (lines : List Text) : List Text := lines.map (stripLine (commonIndent lines))

theorem stripBlock_eq (content : Text) :
    stripBlock content = Text.join ['\n'] (stripLines (blockLines content)) := rfl

theorem isBlank_of_mem_stripLines (hline : line ∈ lines) :
    (stripLine (commonIndent lines) line).isBlank = line.isBlank :=
  isBlank_stripLine (commonIndent_le hline)

theorem commonIndent_map_append (hpad : IsIndentation pad) (h : lines ≠ []) :
    commonIndent (lines.map (pad ++ ·)) = pad.length + commonIndent lines := by
  obtain ⟨⟨line, hline, hleast⟩, hle⟩ := (commonIndent_eq_iff h).1 rfl
  rw [commonIndent_eq_iff (by simpa using h),
    indentedLines_map fun line _ => hpad.isBlank_append line]
  refine ⟨⟨pad ++ line, List.mem_map_of_mem hline, ?_⟩, ?_⟩
  · rw [hpad.indentLength_append, hleast]
  · refine List.forall_mem_map.2 fun other hother => ?_
    rw [hpad.indentLength_append]
    exact Nat.add_le_add_left (hle other hother) _

/-- Lines that have been stripped have no indentation in common any more. -/
theorem commonIndent_stripLines (h : lines ≠ []) : commonIndent (stripLines lines) = 0 := by
  obtain ⟨⟨line, hline, hleast⟩, -⟩ := (commonIndent_eq_iff h).1 rfl
  rw [commonIndent_eq_iff (by simpa [stripLines] using h), stripLines,
    indentedLines_map fun line hline => isBlank_of_mem_stripLines hline]
  refine ⟨⟨_, List.mem_map_of_mem hline, ?_⟩, fun _ _ => Nat.zero_le _⟩
  cases hblank : line.isBlank with
  | true => rw [stripLine_of_isBlank hblank]; rfl
  | false => rw [indentLength_stripLine hblank hleast.ge, hleast, Nat.sub_self]

/-- Indenting all lines alike leaves them as they are. -/
theorem stripLines_map_append (hpad : IsIndentation pad) (h : lines ≠ []) :
    stripLines (lines.map (pad ++ ·)) = stripLines lines := by
  rw [stripLines, commonIndent_map_append hpad h, List.map_map, stripLines]
  refine List.map_congr_left fun line _ => ?_
  rw [Function.comp_apply, stripLine, stripLine, hpad.isBlank_append, List.drop_append,
    List.drop_eq_nil_of_le (Nat.le_add_right _ _), Nat.add_sub_cancel_left, List.nil_append]

/-- Blanks after a line before others change nothing. -/
theorem stripLines_append_pad (hpad : IsIndentation pad) (before : List Text) (line : Text)
    (h : rest ≠ []) :
    stripLines (before ++ (line ++ pad) :: rest) = stripLines (before ++ line :: rest) := by
  have hindent : commonIndent (before ++ (line ++ pad) :: rest) =
      commonIndent (before ++ line :: rest) := by
    have hline : (indentedLines ((line ++ pad) :: rest)).map indentLength =
        (indentedLines (line :: rest)).map indentLength := by
      rw [indentedLines_cons _ h, indentedLines_cons _ h, hpad.append_isBlank]
      split
      · rfl
      · next hblank =>
        rw [List.map_cons, List.map_cons,
          indentLength_append_of_not_isBlank (Bool.eq_false_iff.2 hblank)]
    rw [commonIndent, commonIndent, indentedLines_append _ (List.cons_ne_nil _ _),
      indentedLines_append _ (List.cons_ne_nil _ _), List.map_append, List.map_append, hline]
  rw [stripLines, hindent, stripLines, List.map_append, List.map_append, List.map_cons,
    List.map_cons]
  refine congrArg (fun stripped => _ ++ stripped :: _) ?_
  cases hblank : line.isBlank with
  | true =>
      rw [stripLine_of_isBlank hblank,
        stripLine_of_isBlank ((hpad.append_isBlank line).trans hblank)]
  | false =>
      have hlength : commonIndent (before ++ line :: rest) ≤ line.length :=
        Nat.le_trans (commonIndent_le (by simp) hblank) (List.takeWhile_sublist _).length_le
      rw [stripLine_of_not_isBlank hblank,
        stripLine_of_not_isBlank ((hpad.append_isBlank line).trans hblank),
        List.drop_append_of_le_length hlength, Text.dropRightWhile_append_of_pos hpad]

/-! ### Blocks -/

/-- The lines of a block are those after the first line of its content. -/
theorem blockLines_cases (content : Text) :
    ∃ first, (Text.splitOn '\n' content.normalizeNewlines = [first] ∧ blockLines content = [[]]) ∨
      Text.splitOn '\n' content.normalizeNewlines = first :: blockLines content := by
  obtain ⟨first, lines, hsplit⟩ :=
    List.exists_cons_of_ne_nil (Text.splitOn_ne_nil '\n' content.normalizeNewlines)
  refine ⟨first, ?_⟩
  rw [blockLines, hsplit]
  cases lines with
  | nil => exact .inl ⟨rfl, rfl⟩
  | cons line lines => exact .inr rfl

theorem blockLines_of_splitOn {content first : Text} {lines : List Text} (h : lines ≠ [])
    (hsplit : Text.splitOn '\n' content.normalizeNewlines = first :: lines) :
    blockLines content = lines := by
  obtain ⟨line, lines, rfl⟩ := List.exists_cons_of_ne_nil h
  rw [blockLines, hsplit]

theorem blockLines_ne_nil (content : Text) : blockLines content ≠ [] := by
  rw [blockLines]
  split <;> simp

theorem isLine_of_mem_blockLines {content : Text} (h : line ∈ blockLines content) :
    line.IsLine := by
  obtain ⟨first, ⟨-, hlines⟩ | hsplit⟩ := blockLines_cases content
  · obtain rfl : line = [] := by simpa [hlines] using h
    exact ⟨by simp, by simp⟩
  · have hmem : line ∈ Text.splitOn '\n' content.normalizeNewlines := by
      rw [hsplit]
      exact List.mem_cons_of_mem first h
    exact ⟨fun hc => Text.return_notMem_normalizeAfter false content
      (Text.mem_of_mem_splitOn hmem hc), Text.sep_notMem_of_mem_splitOn hmem⟩

theorem isLine_of_mem_stripLines {content : Text} (h : line ∈ stripLines (blockLines content)) :
    line.IsLine := by
  obtain ⟨whole, hwhole, rfl⟩ := List.mem_map.1 h
  have hline := isLine_of_mem_blockLines hwhole
  exact ⟨fun hc => hline.noReturn (mem_of_mem_stripLine hc),
    fun hc => hline.noFeed (mem_of_mem_stripLine hc)⟩

theorem splitOn_stripBlock (content : Text) :
    Text.splitOn '\n' (stripBlock content) = stripLines (blockLines content) := by
  have hne : stripLines (blockLines content) ≠ [] := by
    simpa [stripLines] using blockLines_ne_nil content
  exact Text.splitOn_join hne fun line hline => (isLine_of_mem_stripLines hline).noFeed

theorem return_notMem_stripBlock (content : Text) : ('\r' : Code) ∉ stripBlock content := by
  intro hc
  obtain hfeed | ⟨line, hline, hc⟩ := Text.mem_join hc
  · exact absurd hfeed (by decide)
  · exact (isLine_of_mem_stripLines hline).noReturn hc

/-! ### Texts without layout -/

/-- A text that has no layout: no line ends with a space or a tab, blank lines are empty, and not
all of the lines that count are indented. -/
structure IsBare (t : Text) : Prop where
  noReturn : ('\r' : Code) ∉ t
  getLast : ∀ line ∈ Text.splitOn '\n' t, ∀ c ∈ line.getLast?, isIndent c = false
  blank : ∀ line ∈ Text.splitOn '\n' t, line.isBlank = true → line = []
  flush : commonIndent (Text.splitOn '\n' t) = 0

theorem isBare_stripBlock (content : Text) : IsBare (stripBlock content) := by
  have hlines := splitOn_stripBlock content
  refine ⟨return_notMem_stripBlock content, fun line hline c hc => ?_, fun line hline hblank => ?_,
    ?_⟩
  · rw [hlines] at hline
    obtain ⟨whole, -, rfl⟩ := List.mem_map.1 hline
    exact getLast_stripLine hc
  · rw [hlines] at hline
    obtain ⟨whole, hwhole, rfl⟩ := List.mem_map.1 hline
    exact stripLine_of_isBlank ((isBlank_of_mem_stripLines hwhole).symm.trans hblank)
  · rw [hlines]
    exact commonIndent_stripLines (blockLines_ne_nil content)

/-- A text without layout is what is left of itself, as the content of a block. -/
theorem IsBare.stripBlock_feed {t : Text} (h : IsBare t) :
    stripBlock (('\n' : Code) :: t) = t := by
  have hne := Text.splitOn_ne_nil '\n' t
  have hsplit : Text.splitOn '\n' (Text.normalizeNewlines (('\n' : Code) :: t)) =
      [] :: Text.splitOn '\n' t := by
    rw [Text.normalizeNewlines_feed, Text.normalizeNewlines,
      Text.normalizeAfter_of_notMem h.noReturn, Text.splitOn, if_pos rfl]
  have hlines : stripLines (Text.splitOn '\n' t) = Text.splitOn '\n' t := by
    rw [stripLines, h.flush]
    refine (List.map_congr_left fun line hline => ?_).trans (List.map_id _)
    exact stripLine_zero (h.blank line hline) (h.getLast line hline)
  rw [stripBlock_eq, blockLines_of_splitOn hne hsplit, hlines, Text.join_splitOn]

/-! ### Reformatting -/

/-- Changes of the layout of a block: all lines but the first are indented, alike, by some spaces
and tabs; a line feed that ends a line on its own becomes a carriage return with a line feed, or
without one where no other line feed follows; a line that has a terminator gets spaces and tabs at
its end. -/
inductive Reformats : Text → Text → Prop
  | indent {content pad : Text} (hpad : IsIndentation pad) :
      Reformats content (Text.indentLines pad content)
  | returnFeed {before after : Text} (hfeed : before.getLast? ≠ some ('\r' : Code)) :
      Reformats (before ++ ('\n' : Code) :: after)
        (before ++ ('\r' : Code) :: ('\n' : Code) :: after)
  | ret {before after : Text} (hfeed : before.getLast? ≠ some ('\r' : Code))
      (hafter : after.head? ≠ some ('\n' : Code)) :
      Reformats (before ++ ('\n' : Code) :: after) (before ++ ('\r' : Code) :: after)
  | pad {before pad after : Text} {terminator : Code} (hpad : IsIndentation pad)
      (hend : before.EndsLine terminator) :
      Reformats (before ++ terminator :: after) (before ++ pad ++ terminator :: after)

theorem stripBlock_indentLines (hpad : IsIndentation pad) (content : Text) :
    stripBlock (Text.indentLines pad content) = stripBlock content := by
  obtain ⟨first, ⟨hsplit, hlines⟩ | hsplit⟩ := blockLines_cases content
  · have hindented := Text.splitOn_indentLines hpad.isLine hsplit
    have hsame : blockLines (Text.indentLines pad content) = blockLines content := by
      rw [hlines, blockLines, hindented]
      rfl
    rw [stripBlock_eq, hsame, stripBlock_eq]
  · have hindented := Text.splitOn_indentLines hpad.isLine hsplit
    have hne := blockLines_ne_nil content
    rw [stripBlock_eq, blockLines_of_splitOn (by simpa using hne) hindented,
      stripLines_map_append hpad hne, stripBlock_eq]

/-- Blocks with the same lines have the same text, whatever ends their lines. -/
theorem stripBlock_congr {content other : Text}
    (h : other.normalizeNewlines = content.normalizeNewlines) :
    stripBlock other = stripBlock content := by
  simp only [stripBlock, blockLines, h]

theorem stripBlock_pad {before : Text} {terminator : Code} (hpad : IsIndentation pad)
    (hend : before.EndsLine terminator) (after : Text) :
    stripBlock (before ++ pad ++ terminator :: after) =
      stripBlock (before ++ terminator :: after) := by
  obtain ⟨lines, line, others, hne, hsplit, hpadded⟩ :=
    Text.exists_splitOn_pad hend hpad.isLine after
  rw [stripBlock_eq, stripBlock_eq]
  cases lines with
  | nil => rw [blockLines_of_splitOn hne hsplit, blockLines_of_splitOn hne hpadded]
  | cons first lines =>
      rw [List.cons_append] at hsplit hpadded
      rw [blockLines_of_splitOn (by simp) hsplit, blockLines_of_splitOn (by simp) hpadded,
        stripLines_append_pad hpad lines line hne]

theorem Reformats.stripBlock_eq {content other : Text} (h : Reformats content other) :
    stripBlock other = stripBlock content := by
  cases h with
  | indent hpad => exact stripBlock_indentLines hpad content
  | returnFeed hfeed =>
      refine stripBlock_congr ?_
      rw [Text.normalizeNewlines_append fun hlast => absurd hlast hfeed,
        Text.normalizeNewlines_append fun hlast => absurd hlast hfeed,
        Text.normalizeNewlines_returnFeed, Text.normalizeNewlines_feed]
  | ret hfeed hafter =>
      refine stripBlock_congr ?_
      rw [Text.normalizeNewlines_append fun hlast => absurd hlast hfeed,
        Text.normalizeNewlines_append fun hlast => absurd hlast hfeed,
        Text.normalizeNewlines_return hafter, Text.normalizeNewlines_feed]
  | pad hpad hend => exact stripBlock_pad hpad hend _

/-- What is left of the content of a block when its layout has been removed: it is the same however
the content is reformatted, step by step; it has no carriage return and no line that ends with a
space or a tab; and as the content of a block, after a line feed, it is left as it is. The texts
that are left as they are are those without layout. -/
theorem stripBlock_normal_form (content : Text) :
    (∀ {other : Text}, Relation.ReflTransGen Reformats content other →
      stripBlock other = stripBlock content) ∧
    ('\r' : Code) ∉ stripBlock content ∧
    (∀ line ∈ Text.splitOn '\n' (stripBlock content), ∀ c ∈ line.getLast?,
      isIndent c = false) ∧
    stripBlock (('\n' : Code) :: stripBlock content) = stripBlock content ∧
    (stripBlock (('\n' : Code) :: content) = content ↔ IsBare content) := by
  have hbare := isBare_stripBlock content
  refine ⟨fun {other} hsteps => ?_, hbare.noReturn, hbare.getLast, hbare.stripBlock_feed,
    fun hsame => ?_, IsBare.stripBlock_feed⟩
  · induction hsteps with
    | refl => rfl
    | tail _ hstep ih => exact hstep.stripBlock_eq.trans ih
  · rw [← hsame]
    exact isBare_stripBlock _

/-- A block of two lines, whose last line is blank and stands at the same place as the first. -/
def evenBlock : Text := "\n a\n  b\n "

/-- The block after one change of each kind: a tab before its lines, another terminator after the
quotes and after the first line, and two spaces after the second line. -/
def unevenBlock : Text := "\r\n\t a\r\t  b  \n\t "

theorem stripBlock_normal_form_uneven :
    Relation.ReflTransGen Reformats evenBlock unevenBlock ∧ stripBlock unevenBlock = "a\n b\n" ∧
      stripBlock (('\n' : Code) :: stripBlock evenBlock) = "a\n b\n" := by
  have hindent : Reformats evenBlock "\n\t a\n\t  b\n\t " :=
    @Reformats.indent evenBlock ['\t'] (by decide)
  have hreturnFeed : Reformats "\n\t a\n\t  b\n\t " "\r\n\t a\n\t  b\n\t " :=
    @Reformats.returnFeed [] "\t a\n\t  b\n\t " (by decide)
  have hret : Reformats "\r\n\t a\n\t  b\n\t " "\r\n\t a\r\t  b\n\t " :=
    @Reformats.ret "\r\n\t a" "\t  b\n\t " (by decide) (by decide)
  have hpad : Reformats "\r\n\t a\r\t  b\n\t " unevenBlock :=
    @Reformats.pad "\r\n\t a\r\t  b" [' ', ' '] "\t " '\n' (by decide)
      (.inr ⟨rfl, by decide⟩)
  have hsteps := Relation.ReflTransGen.refl.tail hindent |>.tail hreturnFeed |>.tail hret
    |>.tail hpad
  have heven : stripBlock evenBlock = "a\n b\n" := by decide
  obtain ⟨hsame, -, -, hagain, -⟩ := stripBlock_normal_form evenBlock
  exact ⟨hsteps, (hsame hsteps).trans heven, hagain.trans heven⟩

end LogHarvest.Java.Literal
