import LogHarvest.Proofs.LogLine
import LogHarvest.Proofs.Text.LowerForm
import Mathlib.Data.List.Forall2

/-!
# Log lines in their tidy form

What is read off a line hangs on the trimmed text of its columns alone. So blanks around a column
and terminators at the end of the line make no difference, and a line that is written from what was
read says the same again: its columns are trimmed, and its level is in lower case, already.
-/

namespace LogHarvest

/-- A text with blanks on either side. -/
def Text.WidenedTo (t wide : Text) : Prop :=
  ∃ front back : Text, (∀ c ∈ front, c.isBlank) ∧ (∀ c ∈ back, c.isBlank) ∧
    wide = front ++ t ++ back

theorem Text.WidenedTo.trim_eq {t wide : Text} (h : t.WidenedTo wide) : wide.trim = t.trim := by
  obtain ⟨front, back, hfront, hback, rfl⟩ := h
  rw [trim_append_blank _ _ hback, trim_blank_append _ _ hfront]

theorem columnBar_notMem_of_blank {t : Text} (h : ∀ c ∈ t, c.isBlank) : columnBar ∉ t :=
  fun hbar => absurd (h _ hbar) (by decide)

theorem Text.WidenedTo.bar_notMem {t wide : Text} (h : t.WidenedTo wide) (ht : columnBar ∉ t) :
    columnBar ∉ wide := by
  obtain ⟨front, back, hfront, hback, rfl⟩ := h
  simp only [List.mem_append, not_or]
  exact ⟨⟨columnBar_notMem_of_blank hfront, ht⟩, columnBar_notMem_of_blank hback⟩

theorem Text.isBlank_of_mem_lineEnd {ending : Text} (h : ∀ c ∈ ending, c = '\r' ∨ c = '\n') :
    ∀ c ∈ ending, c.isBlank := by
  intro c hc
  obtain rfl | rfl := h c hc
  · rfl
  · rfl

namespace LogLine

/-! ### Trimmed columns -/

/-- The trimmed columns of a line, however many there are. -/
def trimmedColumns (line : Text) : List Text := (Text.splitOn columnBar line).map Text.trim

/-- The log line with the given columns, if there are six of them. -/
def ofColumns? : List Text → Option LogLine
  | [timestamp, level, thread, clazz, origin, message] =>
    some ⟨timestamp, level.lower, thread, clazz, origin, message⟩
  | _ => none

theorem ofColumns?_eq_some_iff {columns : List Text} {l : LogLine} :
    ofColumns? columns = some l ↔
      ∃ level, l.level = level.lower ∧
        columns = [l.timestamp, level, l.thread, l.clazz, l.origin, l.message] := by
  constructor
  · intro h
    unfold ofColumns? at h
    split at h
    · next timestamp level thread clazz origin message =>
      obtain rfl := Option.some.inj h
      exact ⟨level, rfl, rfl⟩
    · simp at h
  · rintro ⟨level, hlevel, rfl⟩
    rw [ofColumns?, ← hlevel]

theorem isSome_ofColumns?_iff (columns : List Text) :
    (ofColumns? columns).isSome = true ↔ columns.length = 6 := by
  constructor
  · intro h
    obtain ⟨l, hl⟩ := Option.isSome_iff_exists.1 h
    obtain ⟨level, -, rfl⟩ := ofColumns?_eq_some_iff.1 hl
    rfl
  · intro h
    match columns, h with
    | [timestamp, level, thread, clazz, origin, message], _ => rfl

/-- Blanks after a line are blanks after its last column. -/
theorem trimmedColumns_append_blank (line : Text) {pad : Text} (h : ∀ c ∈ pad, c.isBlank) :
    trimmedColumns (line ++ pad) = trimmedColumns line := by
  obtain ⟨columns, last, hline, happend⟩ :=
    Text.exists_splitOn_append line (columnBar_notMem_of_blank h)
  rw [trimmedColumns, happend, trimmedColumns, hline, List.map_append, List.map_append,
    List.map_singleton, List.map_singleton, Text.trim_append_blank _ _ h]

theorem trimmedColumns_dropLineEnd (line : Text) :
    trimmedColumns line.dropLineEnd = trimmedColumns line := by
  obtain ⟨dropped, hline, hdropped⟩ :=
    Text.exists_eq_dropRightWhile_append (fun c : Code => c = '\r' || c = '\n') line
  have hblank := Text.isBlank_of_mem_lineEnd fun c hc => by simpa using hdropped c hc
  conv_rhs => rw [hline, trimmedColumns_append_blank _ hblank]
  rfl

/-- A line is read by its trimmed columns. -/
theorem ofText?_eq (line : Text) : ofText? line = ofColumns? (trimmedColumns line) := by
  rw [← trimmedColumns_dropLineEnd, trimmedColumns, ofText?]
  generalize Text.splitOn columnBar line.dropLineEnd = columns
  split
  · rfl
  · next hother =>
    symm
    rw [← Option.not_isSome_iff_eq_none, isSome_ofColumns?_iff, List.length_map]
    intro hlength
    obtain ⟨l, hl⟩ := Option.isSome_iff_exists.1 ((isSome_ofColumns?_iff columns).2 hlength)
    obtain ⟨level, -, hcolumns⟩ := ofColumns?_eq_some_iff.1 hl
    exact hother _ _ _ _ _ _ hcolumns

theorem isSome_ofText?_iff (line : Text) :
    (ofText? line).isSome = true ↔ line.count columnBar = 5 := by
  rw [ofText?_eq, isSome_ofColumns?_iff, trimmedColumns, List.length_map, Text.length_splitOn]
  omega

/-! ### Blanks around columns -/

theorem trimmedColumns_join {columns : List Text} (hne : columns ≠ [])
    (h : ∀ column ∈ columns, columnBar ∉ column) :
    trimmedColumns (Text.join [columnBar] columns) = columns.map Text.trim := by
  rw [trimmedColumns, Text.splitOn_join hne h]

theorem map_trim_of_widened {columns wides : List Text}
    (h : List.Forall₂ Text.WidenedTo columns wides) :
    wides.map Text.trim = columns.map Text.trim := by
  induction h with
  | nil => rfl
  | cons hfirst _ ih => rw [List.map_cons, List.map_cons, hfirst.trim_eq, ih]

theorem bar_notMem_of_widened {columns wides : List Text}
    (h : List.Forall₂ Text.WidenedTo columns wides)
    (hcolumns : ∀ column ∈ columns, columnBar ∉ column) : ∀ wide ∈ wides, columnBar ∉ wide := by
  induction h with
  | nil => simp
  | cons hfirst _ ih =>
      rw [List.forall_mem_cons] at hcolumns ⊢
      exact ⟨hfirst.bar_notMem hcolumns.1, ih hcolumns.2⟩

theorem trimmedColumns_widened {line : Text} {wides : List Text}
    (h : List.Forall₂ Text.WidenedTo (Text.splitOn columnBar line) wides) :
    trimmedColumns (Text.join [columnBar] wides) = trimmedColumns line := by
  have hne : wides ≠ [] := by
    rintro rfl
    exact Text.splitOn_ne_nil columnBar line (List.forall₂_nil_right_iff.1 h)
  have hbars := bar_notMem_of_widened h fun _ => Text.sep_notMem_of_mem_splitOn
  rw [trimmedColumns_join hne hbars, map_trim_of_widened h, trimmedColumns]

/-! ### Lines that were read -/

/-- What a reader leaves of a line: columns without bars or blanks at their ends, the level in
lower case. -/
structure IsTidy (l : LogLine) : Prop where
  separable : l.Separable
  trim_eq : ∀ column ∈ l.columns, column.trim = column
  lower_eq : l.level.lower = l.level

theorem IsTidy.tidied_eq {l : LogLine} (h : l.IsTidy) : l.tidied = l := by
  obtain ⟨timestamp, level, thread, clazz, origin, message⟩ := l
  have htrim := h.trim_eq
  have hlower := h.lower_eq
  simp only [columns, List.forall_mem_cons] at htrim
  obtain ⟨htimestamp, hlevel, hthread, hclazz, horigin, hmessage, -⟩ := htrim
  rw [tidied, htimestamp, hlevel, hlower, hthread, hclazz, horigin, hmessage]

/-- A tidy line is read again from the line that is written from it. -/
theorem IsTidy.ofText?_toText {l : LogLine} (h : l.IsTidy) : ofText? l.toText = some l := by
  rw [LogLine.ofText?_toText h.separable, h.tidied_eq]

theorem isTidy_of_ofText? {line : Text} {l : LogLine} (h : ofText? line = some l) :
    l.IsTidy := by
  rw [ofText?_eq] at h
  obtain ⟨level, hlower, hcolumns⟩ := ofColumns?_eq_some_iff.1 h
  have hcolumn : ∀ column ∈ trimmedColumns line,
      columnBar ∉ column ∧ column.trim = column := by
    intro column hmem
    obtain ⟨piece, hpiece, rfl⟩ := List.mem_map.1 hmem
    refine ⟨fun hbar => ?_, Text.trim_trim piece⟩
    exact Text.sep_notMem_of_mem_splitOn hpiece
      ((List.dropWhile_sublist _).subset (Text.mem_of_mem_dropRightWhile hbar))
  simp only [hcolumns, List.forall_mem_cons] at hcolumn
  obtain ⟨htimestamp, hlevel, hthread, hclazz, horigin, hmessage, -⟩ := hcolumn
  refine ⟨?_, ?_, ?_⟩
  · rw [separable_iff, hlower]
    exact ⟨htimestamp.1, Text.bar_notMem_lower hlevel.1, hthread.1, hclazz.1, horigin.1,
      hmessage.1⟩
  · simp only [columns, List.forall_mem_cons, hlower]
    exact ⟨htimestamp.2, Text.trim_lower hlevel.2, hthread.2, hclazz.2, horigin.2, hmessage.2,
      by simp⟩
  · rw [hlower, Text.lower_lower]

/-- A line is a log line exactly if it has five bars. Whatever blanks are put around its columns and
whatever terminators at its end, the same is read off it; what was read is tidy, and is read again
from the line that is written from it, as every tidy line is. -/
theorem ofText?_projection (line : Text) :
    ((ofText? line).isSome = true ↔ line.count columnBar = 5) ∧
      (∀ {wides : List Text} {ending : Text},
        List.Forall₂ Text.WidenedTo (Text.splitOn columnBar line.dropLineEnd) wides →
        (∀ c ∈ ending, c = '\r' ∨ c = '\n') →
        ofText? (Text.join [columnBar] wides ++ ending) = ofText? line) ∧
      (∀ {l : LogLine}, ofText? line = some l → l.IsTidy ∧ ofText? l.toText = some l) ∧
      ∀ {l : LogLine}, l.IsTidy → ofText? l.toText = some l := by
  refine ⟨isSome_ofText?_iff line, fun {wides ending} hwides hending => ?_, fun {l} hl => ?_,
    fun {l} htidy => htidy.ofText?_toText⟩
  · rw [ofText?_eq, trimmedColumns_append_blank _ (Text.isBlank_of_mem_lineEnd hending),
      trimmedColumns_widened hwides, trimmedColumns_dropLineEnd, ← ofText?_eq]
  · exact ⟨isTidy_of_ofText? hl, (isTidy_of_ofText? hl).ofText?_toText⟩

/-- A line whose level, after a no-break space, is a dotted I before a sigma that ends the word. -/
def sigmaLine : Text :=
  Text.ofString "1|" ++ [⟨0xA0⟩, ⟨0x130⟩, ⟨0x3A3⟩] ++ Text.ofString "||C|x| up\n"

/-- Its columns between other blanks. -/
def sigmaWides : List Text :=
  [['1', ' '], [⟨0x2003⟩, ⟨0xA0⟩, ⟨0x130⟩, ⟨0x3A3⟩], [⟨0x3000⟩], ['C'], ['x'],
    [' ', 'u', 'p', '\r', '\t']]

/-- What is read off both. -/
def sigmaRow : LogLine :=
  ⟨['1'], [⟨0x69⟩, ⟨0x307⟩, ⟨0x3C2⟩], [], ['C'], ['x'], ['u', 'p']⟩

theorem ofText?_projection_sigma :
    List.Forall₂ Text.WidenedTo (Text.splitOn columnBar sigmaLine.dropLineEnd) sigmaWides ∧
      (∀ c ∈ (['\r', '\n'] : Text), c = '\r' ∨ c = '\n') ∧ ofText? sigmaLine = some sigmaRow ∧
      ofText? (Text.join [columnBar] sigmaWides ++ ['\r', '\n']) = some sigmaRow ∧
      sigmaRow.IsTidy ∧ ofText? sigmaRow.toText = some sigmaRow := by
  have hsplit : Text.splitOn columnBar sigmaLine.dropLineEnd =
      ([['1'], [⟨0xA0⟩, ⟨0x130⟩, ⟨0x3A3⟩], [], ['C'], ['x'], [' ', 'u', 'p']] : List Text) := by
    decide
  have hwides : List.Forall₂ Text.WidenedTo (Text.splitOn columnBar sigmaLine.dropLineEnd)
      sigmaWides := by
    rw [hsplit]
    exact .cons ⟨[], [' '], by decide, by decide, rfl⟩ <|
      .cons ⟨[⟨0x2003⟩], [], by decide, by decide, rfl⟩ <|
      .cons ⟨[⟨0x3000⟩], [], by decide, by decide, rfl⟩ <|
      .cons ⟨[], [], by decide, by decide, rfl⟩ <|
      .cons ⟨[], [], by decide, by decide, rfl⟩ <|
      .cons ⟨[], ['\r', '\t'], by decide, by decide, rfl⟩ .nil
  have hending : ∀ c ∈ (['\r', '\n'] : Text), c = '\r' ∨ c = '\n' := by decide
  have hread : ofText? sigmaLine = some sigmaRow := by decide +kernel
  obtain ⟨-, hsame, htidy, hagain⟩ := ofText?_projection sigmaLine
  exact ⟨hwides, hending, hread, (hsame hwides hending).trans hread, (htidy hread).1,
    hagain (htidy hread).1⟩

end LogLine

end LogHarvest
