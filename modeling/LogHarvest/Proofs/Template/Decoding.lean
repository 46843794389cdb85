import LogHarvest.Proofs.Statement
import LogHarvest.Proofs.Template.Reading

/-!
# Reading a template back from its pattern text

An opening parenthesis is escaped wherever it is literal, so a bare one starts the group of a
marker, and a bare backslash starts an escape, which its next code tells apart. So one pass from
the left undoes escaping, templates with the same pattern text are the same, and a record that
holds a pattern text says which template it was made from.
-/

namespace LogHarvest.Template

/-! ### The decoder -/

/-- The code that an escape stands for, from the code after its backslash. -/
def unescapeCode (c : Code) : Code :=
  if c = 'x' then columnBar else if c = 'n' then '\n' else if c = 'r' then '\r' else c

/-- The codes of an escape behind its backslash, of which the first is given. -/
def escapeWidth (c : Code) : Nat := if c = 'x' then 3 else 1

/-- The template of a pattern text of which some codes have been dealt with. -/
def unescapeAfter : Nat → Text → Text
  | _, [] => []
  | skip + 1, _ :: rest => unescapeAfter skip rest
  | 0, c :: rest =>
    if c = '(' then markerOpen :: markerClose :: unescapeAfter (wordGroup.length - 1) rest
    else if c = '\\' then
      match rest.head? with
      | none => []
      | some d => unescapeCode d :: unescapeAfter (escapeWidth d) rest
    else c :: unescapeAfter 0 rest

/-- The template of a pattern text. -/
def unescape (source : Text) : Text := unescapeAfter 0 source

theorem unescapeAfter_append (done rest : Text) :
    unescapeAfter done.length (done ++ rest) = unescape rest := by
  induction done with
  | nil => rfl
  | cons c done ih => exact ih

theorem unescape_wordGroup (rest : Text) :
    unescape (wordGroup ++ rest) = markerOpen :: markerClose :: unescape rest := rfl

/-- An escape is read as the code it stands for, whatever comes after it. -/
theorem unescape_backslash (d : Code) (escaped rest : Text)
    (hwidth : (d :: escaped).length = escapeWidth d) :
    unescape (Code.ofChar '\\' :: d :: escaped ++ rest) = unescapeCode d :: unescape rest := by
  rw [← unescapeAfter_append (d :: escaped) rest, hwidth]
  rfl

theorem unescape_plain {c : Code} (hc : c ∉ Text.ofChars specialCharacters) (rest : Text) :
    unescape (c :: rest) = c :: unescape rest := by
  have hgroup : c ≠ '(' := by
    rintro rfl
    exact hc (by decide)
  have hbackslash : c ≠ '\\' := by
    rintro rfl
    exact hc (by decide)
  rw [unescape, unescapeAfter, if_neg hgroup, if_neg hbackslash, unescape]

/-- No special character is the letter of an escape that stands for something else. -/
theorem unescapeCode_special :
    ∀ c ∈ Text.ofChars specialCharacters, unescapeCode c = c ∧ escapeWidth c = 1 := by
  decide

theorem unescape_escapeCode (c : Code) (rest : Text) :
    unescape (escapeCode c ++ rest) = c :: unescape rest := by
  unfold escapeCode
  split_ifs with hbar hfeed hreturn hspecial
  · subst hbar
    exact unescape_backslash 'x' ['7', 'c'] rest rfl
  · subst hfeed
    exact unescape_backslash 'n' [] rest rfl
  · subst hreturn
    exact unescape_backslash 'r' [] rest rfl
  · obtain ⟨hcode, hwidth⟩ := unescapeCode_special c hspecial
    calc unescape ([Code.ofChar '\\', c] ++ rest)
        = unescapeCode c :: unescape rest := unescape_backslash c [] rest hwidth.symm
      _ = c :: unescape rest := by rw [hcode]
  · exact unescape_plain hspecial rest

/-- The decoder undoes escaping. -/
theorem leftInverse_unescape : Function.LeftInverse unescape escape := by
  intro t
  induction t using marker_induction with
  | nil => rfl
  | marker rest ih => rw [escape, escapeWith_marker, unescape_wordGroup, ← escape, ih]
  | literal c rest hc ih =>
      rw [escape, escapeWith_literal _ hc, unescape_escapeCode, ← escape, ih]

/-! ### Records of templates -/

/-- The statement of a template with a level and a class is read back from its record if neither
of the two is taken for more than one field. -/
theorem ofRecord?_toRecord_pattern (t : Text) {level clazz : Text}
    (h : ∀ part ∈ [level, clazz], columnBar ∉ part ∧ part.IsLine) :
    Statement.ofRecord? (Statement.toRecord ⟨level, clazz, pattern t⟩) =
      .ok (some ⟨level, clazz, pattern t⟩) := by
  refine Statement.Separable.ofRecord?_toRecord ?_ (read_escape t)
  intro part hpart
  obtain rfl | rfl | rfl : part = level ∨ part = clazz ∨ part = (pattern t).source := by
    simpa [Statement.parts] using hpart
  · exact h part (by simp)
  · exact h part (by simp)
  · exact separable_escape t

/-- A pattern text holds neither a bar nor a line terminator, and the decoder reads its template
from it, so no other template has it. With a level and a class that hold none of the three either,
the record of the template's statement is read back as the statement, and no record of another
level, class or template is the same. -/
theorem escape_decodable (t : Text) :
    columnBar ∉ escape t ∧ (escape t).IsLine ∧ unescape (escape t) = t ∧
      (∀ t', escape t = escape t' → t = t') ∧
      ∃ p, compile t = .ok p ∧ p.source = escape t ∧
        ∀ level clazz : Text, (∀ part ∈ [level, clazz], columnBar ∉ part ∧ part.IsLine) →
          Statement.ofRecord? (Statement.toRecord ⟨level, clazz, p⟩) =
              .ok (some ⟨level, clazz, p⟩) ∧
            ∀ (t' level' clazz' : Text) (p' : Pattern),
              (∀ part ∈ [level', clazz'], columnBar ∉ part ∧ part.IsLine) →
              compile t' = .ok p' →
              Statement.toRecord ⟨level, clazz, p⟩ = Statement.toRecord ⟨level', clazz', p'⟩ →
              level = level' ∧ clazz = clazz' ∧ t = t' := by
  obtain ⟨hbar, hline⟩ := separable_escape t
  refine ⟨hbar, hline, leftInverse_unescape t, fun t' h => leftInverse_unescape.injective h,
    pattern t, compile_eq t, rfl, fun level clazz hparts => ?_⟩
  have hread := ofRecord?_toRecord_pattern t hparts
  refine ⟨hread, fun t' level' clazz' p' hparts' hcompile hrecord => ?_⟩
  obtain rfl : pattern t' = p' := Except.ok.inj ((compile_eq t').symm.trans hcompile)
  have hstatement := Statement.toRecord_inj hread (ofRecord?_toRecord_pattern t' hparts') hrecord
  obtain ⟨hlevel, hclazz, hpattern⟩ := Statement.mk.inj hstatement
  exact ⟨hlevel, hclazz, leftInverse_unescape.injective (congrArg Pattern.source hpattern)⟩

/-- The records of two templates that differ in an escape and its text are not the same. -/
theorem escape_decodable_bar :
    ¬∃ p p', compile (Text.ofString "|") = .ok p ∧ compile (Text.ofString "\\x7c") = .ok p' ∧
      Statement.toRecord ⟨Text.ofString "info", Text.ofString "A", p⟩ =
        Statement.toRecord ⟨Text.ofString "info", Text.ofString "A", p'⟩ := by
  rintro ⟨p, p', hp, hp', hrecord⟩
  have hparts : ∀ part ∈ [Text.ofString "info", Text.ofString "A"],
      columnBar ∉ part ∧ part.IsLine := by decide
  obtain ⟨-, -, -, -, q, hq, -, hrecords⟩ := escape_decodable (Text.ofString "|")
  obtain rfl : p = q := Except.ok.inj (hp.symm.trans hq)
  obtain ⟨-, -, htemplate⟩ := (hrecords _ _ hparts).2 _ _ _ p' hparts hp' hrecord
  exact absurd htemplate (by decide)

/-- The texts of escapes and of a group are literal text too. -/
example : unescape (escape (Text.ofString "|\\x7c\n\\n([\\w]+)\x7b\x7d")) =
    Text.ofString "|\\x7c\n\\n([\\w]+)\x7b\x7d" := by decide

end LogHarvest.Template
