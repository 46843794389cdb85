import LogHarvest.Proofs.Template.Pieces
import LogHarvest.Proofs.Text.Fields
import LogHarvest.Proofs.Text.Lines
import LogHarvest.Proofs.Text.Trim
import LogHarvest.Proofs.Text.Utf8
import LogHarvest.Statement

/-!
# Records of statements

A record keeps its statement when no field of it holds a bar or a line terminator. The pattern
text of a template is such a field whatever the template holds, because the three codes in
question are written as escapes.
-/

namespace LogHarvest

/-! ### Fields -/

/-- A code that may stand in a field of a record. -/
def Code.InField (c : Code) : Prop :=
  c ≠ columnBar ∧ c ≠ '\r' ∧ c ≠ '\n' ∧ c.val < 0x110000

instance : DecidablePred Code.InField := fun _ => inferInstanceAs (Decidable (_ ∧ _))

/-- A text that may be a field of a record. -/
def Text.IsField (t : Text) : Prop := ∀ c ∈ t, c.InField

instance : DecidablePred Text.IsField := fun t =>
  inferInstanceAs (Decidable (∀ c ∈ t, c.InField))

namespace Text.IsField

variable {t : Text}

theorem bar_notMem (h : t.IsField) : columnBar ∉ t := fun hc => (h _ hc).1 rfl

theorem isLine (h : t.IsField) : t.IsLine :=
  ⟨fun hc => (h _ hc).2.1 rfl, fun hc => (h _ hc).2.2.1 rfl⟩

end Text.IsField

theorem Text.IsLine.isField {t : Text} (hline : t.IsLine) (hbar : columnBar ∉ t)
    (hlt : ∀ c ∈ t, c.val < 0x110000) : t.IsField := by
  intro c hc
  refine ⟨?_, ?_, ?_, hlt c hc⟩
  · rintro rfl
    exact hbar hc
  · rintro rfl
    exact hline.noReturn hc
  · rintro rfl
    exact hline.noFeed hc

/-! ### Pattern texts -/

namespace Template

/-- The codes that a pattern text holds beside those of its template. -/
def syntaxCodes : Text := wordGroup ++ Text.ofChars ['x', '7', 'c', 'n', 'r']

theorem mem_escapeCode {c d : Code} (h : d ∈ escapeCode c) : d = c ∨ d ∈ syntaxCodes := by
  unfold escapeCode at h
  split_ifs at h with hbar hfeed hreturn hspecial
  · exact .inr ((by decide : ∀ e ∈ (['\\', 'x', '7', 'c'] : Text), e ∈ syntaxCodes) d h)
  · exact .inr ((by decide : ∀ e ∈ (['\\', 'n'] : Text), e ∈ syntaxCodes) d h)
  · exact .inr ((by decide : ∀ e ∈ (['\\', 'r'] : Text), e ∈ syntaxCodes) d h)
  · obtain rfl | hd := List.mem_cons.1 h
    · exact .inr (by decide)
    · exact .inl (List.mem_singleton.1 hd)
  · exact .inl (List.mem_singleton.1 h)

/-- What breaks a record is written without its own code. -/
theorem notMem_escapeCode {d : Code} (hd : d = columnBar ∨ d = '\r' ∨ d = '\n') (c : Code) :
    d ∉ escapeCode c := by
  intro h
  have hsyntax : d ∉ syntaxCodes := by
    obtain rfl | rfl | rfl := hd <;> decide
  obtain rfl | hmem := mem_escapeCode h
  · obtain rfl | rfl | rfl := hd
    · exact absurd h (by decide)
    · exact absurd h (by decide)
    · exact absurd h (by decide)
  · exact hsyntax hmem

/-- A property that the word group has, and the text of every code of a template, is one that its
pattern text has. -/
theorem forall_mem_escape {P : Code → Prop} {t : Text} (hgroup : ∀ d ∈ wordGroup, P d)
    (hcode : ∀ c ∈ t, ∀ d ∈ escapeCode c, P d) : ∀ d ∈ escape t, P d := by
  induction t using marker_induction with
  | nil => simp [escape, escapeWith]
  | marker rest ih =>
      rw [escape, escapeWith_marker]
      exact List.forall_mem_append.2
        ⟨hgroup, ih fun c hc => hcode c (List.mem_cons_of_mem _ (List.mem_cons_of_mem _ hc))⟩
  | literal c rest hc ih =>
      obtain ⟨hfirst, hrest⟩ := List.forall_mem_cons.1 hcode
      rw [escape, escapeWith_literal _ hc]
      exact List.forall_mem_append.2 ⟨hfirst, ih hrest⟩

/-- The pattern text of a template is kept by a record, whatever the template holds. -/
theorem separable_escape (t : Text) : columnBar ∉ escape t ∧ (escape t).IsLine := by
  have hnotMem (d : Code) (hd : d = columnBar ∨ d = '\r' ∨ d = '\n') : d ∉ escape t := by
    intro hmem
    refine forall_mem_escape (P := (· ≠ d)) ?_ ?_ d hmem rfl
    · obtain rfl | rfl | rfl := hd <;> decide
    · rintro c - e he rfl
      exact notMem_escapeCode hd c he
  exact ⟨hnotMem _ (.inl rfl), hnotMem _ (.inr (.inl rfl)), hnotMem _ (.inr (.inr rfl))⟩

/-- The pattern text of a template is a field if the template spells no stray byte. -/
theorem isField_escape {t : Text} (h : t.IsDecoded) : (escape t).IsField := by
  obtain ⟨hbar, hline⟩ := separable_escape t
  refine hline.isField hbar (forall_mem_escape (by decide) fun c hc d hd => ?_)
  obtain rfl | hsyntax := mem_escapeCode hd
  · exact h d hc
  · exact (by decide : ∀ e ∈ syntaxCodes, e.val < 0x110000) d hsyntax

end Template

/-! ### Records -/

namespace Statement

/-- A statement that its record keeps: its fields are fields, and its pattern is the one that its
pattern text is read as. -/
structure Recordable (s : Statement) : Prop where
  level : s.level.IsField
  clazz : s.clazz.IsField
  source : s.pattern.source.IsField
  pattern : Pattern.read s.pattern.source = .ok s.pattern

/-- What a record says of a statement, in order. -/
def parts (s : Statement) : List Text := [s.level, s.clazz, s.pattern.source]

/-- No part of a statement holds a bar or a line terminator. -/
def Separable (s : Statement) : Prop := ∀ part ∈ s.parts, columnBar ∉ part ∧ part.IsLine

instance : DecidablePred Separable := fun s =>
  inferInstanceAs (Decidable (∀ part ∈ s.parts, columnBar ∉ part ∧ part.IsLine))

/-- Every code of a statement has an encoding. -/
def Writable (s : Statement) : Prop := ∀ part ∈ s.parts, ∀ c ∈ part, c.IsScalar

instance : DecidablePred Writable := fun s =>
  inferInstanceAs (Decidable (∀ part ∈ s.parts, ∀ c ∈ part, c.IsScalar))

variable {s : Statement}

theorem Recordable.separable (h : s.Recordable) : s.Separable := by
  simp only [Separable, parts, List.forall_mem_cons]
  exact ⟨⟨h.level.bar_notMem, h.level.isLine⟩, ⟨h.clazz.bar_notMem, h.clazz.isLine⟩,
    ⟨h.source.bar_notMem, h.source.isLine⟩, by simp⟩

theorem Separable.recordable (hs : s.Separable) (hw : s.Writable)
    (hread : Pattern.read s.pattern.source = .ok s.pattern) : s.Recordable := by
  have hfield {t : Text} (ht : t ∈ s.parts) : t.IsField :=
    (hs t ht).2.isField (hs t ht).1 fun c hc => (hw t ht c hc).lt
  exact ⟨hfield (by simp [parts]), hfield (by simp [parts]), hfield (by simp [parts]), hread⟩

theorem isLine_toRecord (h : s.Separable) : s.toRecord.IsLine := by
  have hnotMem {c : Code} (hbar : c ∉ [columnBar]) (hparts : ∀ part ∈ s.parts, c ∉ part) :
      c ∉ s.toRecord := by
    intro hc
    obtain hc | ⟨part, hpart, hc⟩ := Text.mem_join hc
    · exact hbar hc
    · exact hparts part hpart hc
  exact ⟨hnotMem (by decide) fun part hpart => (h part hpart).2.noReturn,
    hnotMem (by decide) fun part hpart => (h part hpart).2.noFeed⟩

theorem isDecoded_toRecord (h : s.Recordable) : s.toRecord.IsDecoded := by
  intro c hc
  obtain hbar | ⟨part, hpart, hc⟩ := Text.mem_join hc
  · obtain rfl := List.mem_singleton.1 hbar
    decide
  · simp only [List.mem_cons, List.not_mem_nil, or_false] at hpart
    obtain rfl | rfl | rfl := hpart
    · exact (h.level c hc).2.2.2
    · exact (h.clazz c hc).2.2.2
    · exact (h.source c hc).2.2.2

/-- A record is read back if nothing in it is taken for a separator. -/
theorem Separable.ofRecord?_toRecord (h : s.Separable)
    (hread : Pattern.read s.pattern.source = .ok s.pattern) :
    ofRecord? s.toRecord = .ok (some s) := by
  have hline := isLine_toRecord h
  have hend : s.toRecord.dropLineEnd = s.toRecord := by
    rw [Text.dropLineEnd, Text.dropRightWhile_eq, List.rdropWhile_eq_self_iff]
    intro hne hlast
    obtain hr | hf : _ = (Code.ofChar '\r') ∨ _ = (Code.ofChar '\n') := by simpa using hlast
    · exact hline.noReturn (hr ▸ List.getLast_mem hne)
    · exact hline.noFeed (hf ▸ List.getLast_mem hne)
  have hfields : Text.splitOn columnBar s.toRecord = s.parts :=
    Text.splitOn_join (by simp) fun part hpart => (h part hpart).1
  rw [ofRecord?, hend, hfields]
  simp only [parts, hread]
  rfl

theorem ofRecord?_toRecord (h : s.Recordable) : ofRecord? s.toRecord = .ok (some s) :=
  h.separable.ofRecord?_toRecord h.pattern

/-- A record determines its statement. -/
theorem toRecord_inj {s' : Statement} (h : ofRecord? s.toRecord = .ok (some s))
    (h' : ofRecord? s'.toRecord = .ok (some s')) (heq : s.toRecord = s'.toRecord) : s = s' := by
  rw [heq, h'] at h
  exact (Option.some.inj (Except.ok.inj h)).symm

theorem map_toRecord_inj {ss ss' : List Statement} (h : ∀ s ∈ ss, s.Recordable)
    (h' : ∀ s ∈ ss', s.Recordable) (heq : ss.map toRecord = ss'.map toRecord) : ss = ss' := by
  induction ss generalizing ss' with
  | nil => simpa [eq_comm] using heq
  | cons s ss ih =>
      cases ss' with
      | nil => simp at heq
      | cons s' ss' =>
          obtain ⟨hs, hss⟩ := List.forall_mem_cons.1 h
          obtain ⟨hs', hss'⟩ := List.forall_mem_cons.1 h'
          obtain ⟨hfirst, hrest⟩ := List.cons.inj heq
          have heq := toRecord_inj (ofRecord?_toRecord hs) (ofRecord?_toRecord hs') hfirst
          rw [heq, ih hss hss' hrest]

end Statement

end LogHarvest
