import LogHarvest.LogLine
import LogHarvest.Proofs.Text.Fields
import LogHarvest.Proofs.Text.Trim

/-!
# Reading the columns of a log line

A line is read back from its columns when none of them holds a bar. What a column keeps is its
trimmed text, so it makes no difference whether the bars stand between spaces.
-/

namespace LogHarvest.LogLine

/-- No column holds a bar, so the bars of the line are those between its columns. -/
def Separable (l : LogLine) : Prop := ∀ column ∈ l.columns, columnBar ∉ column

theorem separable_iff {l : LogLine} : l.Separable ↔
    columnBar ∉ l.timestamp ∧ columnBar ∉ l.level ∧ columnBar ∉ l.thread ∧
      columnBar ∉ l.clazz ∧ columnBar ∉ l.origin ∧ columnBar ∉ l.message := by
  simp [Separable, columns]

/-- The columns as a reader takes them. -/
def tidied (l : LogLine) : LogLine :=
  ⟨l.timestamp.trim, l.level.trim.lower, l.thread.trim, l.clazz.trim, l.origin.trim,
    l.message.trim⟩

/-- The columns with the spaces that stand beside the bars of a line. -/
def padded (l : LogLine) : LogLine :=
  ⟨l.timestamp ++ [(' ' : Code)], (' ' : Code) :: l.level ++ [(' ' : Code)],
    (' ' : Code) :: l.thread ++ [(' ' : Code)], (' ' : Code) :: l.clazz ++ [(' ' : Code)],
    (' ' : Code) :: l.origin ++ [(' ' : Code)], (' ' : Code) :: l.message⟩

/-- The terminator of a line is at the end of its message. -/
theorem dropLineEnd_join (l : LogLine) :
    (Text.join [columnBar] l.columns).dropLineEnd =
      Text.join [columnBar] { l with message := l.message.dropLineEnd }.columns := by
  have hjoin (m : Text) : Text.join [columnBar] { l with message := m }.columns =
      Text.join [columnBar] [l.timestamp, l.level, l.thread, l.clazz, l.origin] ++
        columnBar :: m := by
    simp [columns, Text.join]
  rw [hjoin, show l = { l with message := l.message } from rfl, hjoin]
  exact Text.dropRightWhile_append_cons (by decide) _ _

theorem ofText?_join {l : LogLine} (h : l.Separable) :
    ofText? (Text.join [columnBar] l.columns) = some l.tidied := by
  have hmessage : columnBar ∉ l.message.dropLineEnd :=
    fun hbar => h l.message (by simp [columns]) (Text.mem_of_mem_dropRightWhile hbar)
  have hline : { l with message := l.message.dropLineEnd }.Separable := by
    rw [separable_iff] at h ⊢
    exact ⟨h.1, h.2.1, h.2.2.1, h.2.2.2.1, h.2.2.2.2.1, hmessage⟩
  rw [ofText?, dropLineEnd_join, Text.splitOn_join (by simp [columns]) hline]
  simp [columns, tidied, Text.trim_dropLineEnd]

private theorem trim_spaced (t : Text) :
    Text.trim ((' ' : Code) :: t ++ [(' ' : Code)]) = t.trim := by
  rw [Text.trim_append_blank _ _ (by decide)]
  exact Text.trim_blank_append [(' ' : Code)] t (by decide)

theorem tidied_padded (l : LogLine) : l.padded.tidied = l.tidied := by
  have hfirst := Text.trim_append_blank l.timestamp [(' ' : Code)] (by decide)
  have hlast := Text.trim_blank_append [(' ' : Code)] l.message (by decide)
  rw [List.singleton_append] at hlast
  simp only [tidied, padded, trim_spaced, hfirst, hlast]

theorem Separable.padded {l : LogLine} (h : l.Separable) : l.padded.Separable := by
  have hspace : columnBar ≠ (' ' : Code) := by decide
  simpa [separable_iff, LogLine.padded, hspace] using h

theorem toText_eq_join_padded (l : LogLine) :
    l.toText = Text.join [columnBar] l.padded.columns := by
  simp [toText, columns, padded, Text.join]

theorem ofText?_toText {l : LogLine} (h : l.Separable) : ofText? l.toText = some l.tidied := by
  rw [toText_eq_join_padded, ofText?_join h.padded, tidied_padded]

end LogHarvest.LogLine
