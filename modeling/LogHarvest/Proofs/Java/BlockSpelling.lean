import LogHarvest.Proofs.Java.Layout
import LogHarvest.Proofs.Java.Spelling
import LogHarvest.Proofs.Json.Strings

/-!
# Texts spelled in a text block

Every text can be written in a text block, line by line: each line is spelled as in a plain literal,
a carriage return or a blank at either end of a line by an escape, and indented like all the others.
Then the layout that is removed is the indentation alone, and reading the escapes of what is left
gives the text again, whatever the lines of the block are ended with.
-/

namespace LogHarvest.Java.Literal

/-! ### Spelled lines -/

variable {line spelled : Text} {lines rows : List Text} {k : Nat}

/-- How a line of a text is spelled in a block: no carriage return and no blank at either end stands
there as itself. -/
structure SpellsLine (line spelled : Text) : Prop where
  spells : Spells [] line spelled
  noReturn : ('\r' : Code) ∉ spelled
  trim_eq : spelled.trim = spelled

theorem Spelling.feed_notMem {after : Text} {c : Code} (h : Spelling after c spelled)
    (hc : c ≠ '\n') : ('\n' : Code) ∉ spelled := by
  cases h with
  | itself => simpa using hc.symm
  | letter he =>
      have hall : ∀ e ∈ letterCodes, ('\n' : Code) ≠ e.1 := by decide
      have hbackslash : ('\n' : Code) ≠ '\\' := by decide
      simpa [hbackslash] using hall _ he
  | octal hdigits =>
      intro hfeed
      obtain hfeed | hfeed := List.mem_cons.1 hfeed
      · exact absurd hfeed (by decide)
      · exact absurd (hdigits.digit _ hfeed) (by decide)
  | unicode hne hus hlength hdigits =>
      intro hfeed
      obtain hfeed | hfeed := List.mem_cons.1 hfeed
      · exact absurd hfeed (by decide)
      · obtain hfeed | hfeed := List.mem_append.1 hfeed
        · exact absurd (hus _ hfeed) (by decide)
        · exact absurd (hdigits _ hfeed) (by decide)

theorem Spells.feed_notMem {after : Text} (h : Spells after line spelled)
    (hline : ('\n' : Code) ∉ line) : ('\n' : Code) ∉ spelled := by
  induction h with
  | nil => simp
  | cons first _ ih =>
      obtain ⟨hc, hrest⟩ := List.ne_and_not_mem_of_not_mem_cons hline
      simpa using ⟨first.feed_notMem (Ne.symm hc), ih hrest⟩

theorem SpellsLine.isLine (h : SpellsLine line spelled) (hline : ('\n' : Code) ∉ line) :
    spelled.IsLine :=
  ⟨h.noReturn, h.spells.feed_notMem hline⟩

/-- What ends a spelled text may be followed by anything but an octal digit. -/
theorem Spells.before {after : Text} (h : Spells [] line spelled)
    (hafter : ∀ d ∈ after.head?, d.isOctalDigit = false) : Spells after line spelled := by
  induction h with
  | nil => exact .nil
  | @cons c first s body hfirst _ ih =>
      refine .cons ?_ ih
      cases hfirst with
      | itself hbackslash hquote => exact .itself hbackslash hquote
      | letter he => exact .letter he
      | octal hdigits hend =>
          refine .octal hdigits fun d hd hmore => ?_
          cases body with
          | nil =>
              have hdigit := hmore.digit d (by simp)
              rw [hafter d hd] at hdigit
              exact absurd hdigit (by decide)
          | cons next body => exact hend d hd hmore
      | unicode hne hus hlength hdigits => exact .unicode hne hus hlength hdigits

/-- Lines that are spelled one by one are read with the line feeds between them. -/
theorem unescape_join {bodies : List Text} (h : List.Forall₂ (Spells []) lines bodies) :
    unescape (Text.join ['\n'] bodies) = Text.join ['\n'] lines := by
  induction h with
  | nil => rfl
  | @cons line body lines bodies hline hrest ih =>
      cases hrest with
      | nil =>
          have hread := hline.unescape_append
          rw [List.append_nil] at hread
          exact hread.trans (List.append_nil line)
      | cons hnext hothers =>
          have hfeed (rest : Text) : ∀ d ∈ (('\n' : Code) :: rest).head?,
              d.isOctalDigit = false := by
            rintro d ⟨⟩
            rfl
          rw [Text.join_cons_cons, Text.join_cons_cons, List.append_assoc, List.append_assoc,
            List.singleton_append, List.singleton_append, (hline.before (hfeed _)).unescape_append,
            unescape_plain (by decide), ih]

/-! ### Rows of a block -/

/-- An indentation of some spaces. -/
def spaces (k : Nat) : Text := List.replicate k ' '

theorem isIndentation_spaces (k : Nat) : IsIndentation (spaces k) := by
  intro c hc
  rw [List.eq_of_mem_replicate hc]
  rfl

/-- The rows that some lines are written in, each spelled after `k` spaces. A row for an empty line
may be empty unless it is the last one. -/
inductive Rows (k : Nat) : List Text → List Text → Prop
  | last {line spelled : Text} (h : SpellsLine line spelled) : Rows k [line] [spaces k ++ spelled]
  | line {line spelled : Text} {lines rows : List Text} (h : SpellsLine line spelled)
      (rest : Rows k lines rows) : Rows k (line :: lines) ((spaces k ++ spelled) :: rows)
  | empty {lines rows : List Text} (rest : Rows k lines rows) : Rows k ([] :: lines) ([] :: rows)

theorem Rows.ne_nil (h : Rows k lines rows) : rows ≠ [] := by
  cases h <;> exact List.cons_ne_nil _ _

theorem isLine_spaces_append (h : spelled.IsLine) (k : Nat) : (spaces k ++ spelled).IsLine := by
  have hspaces := (isIndentation_spaces k).isLine
  exact ⟨fun hc => (List.mem_append.1 hc).elim hspaces.noReturn h.noReturn,
    fun hc => (List.mem_append.1 hc).elim hspaces.noFeed h.noFeed⟩

theorem Rows.isLine (h : Rows k lines rows) (hlines : ∀ line ∈ lines, ('\n' : Code) ∉ line) :
    ∀ row ∈ rows, row.IsLine := by
  induction h with
  | last hline =>
      rw [List.forall_mem_singleton] at hlines ⊢
      exact isLine_spaces_append (hline.isLine hlines) k
  | line hline _ ih =>
      rw [List.forall_mem_cons] at hlines ⊢
      exact ⟨isLine_spaces_append (hline.isLine hlines.1) k, ih hlines.2⟩
  | empty _ ih =>
      rw [List.forall_mem_cons] at hlines ⊢
      exact ⟨⟨by simp, by simp⟩, ih hlines.2⟩

/-- A spelled line has no indentation of its own. -/
theorem SpellsLine.indentLength_eq (h : SpellsLine line spelled) : indentLength spelled = 0 := by
  cases spelled with
  | nil => rfl
  | cons c rest =>
      have hc : c.isBlank = false := ((Text.trim_eq_self_iff _).1 h.trim_eq).1
      have hindent : isIndent c = false :=
        Bool.eq_false_iff.2 fun hc' => by simp [isBlank_of_isIndent hc'] at hc
      rw [indentLength, List.takeWhile_cons_of_neg (by simp [hindent])]
      rfl

theorem SpellsLine.indentLength_row (h : SpellsLine line spelled) :
    indentLength (spaces k ++ spelled) = k := by
  rw [(isIndentation_spaces k).indentLength_append, h.indentLength_eq, spaces,
    List.length_replicate]
  rfl

theorem SpellsLine.stripLine_row (h : SpellsLine line spelled) :
    stripLine k (spaces k ++ spelled) = spelled := by
  have hdrop : (spaces k ++ spelled).drop k = spelled :=
    List.drop_left' (List.length_replicate)
  cases hblank : (spaces k ++ spelled).isBlank with
  | true =>
      rw [stripLine_of_isBlank hblank]
      rw [(isIndentation_spaces k).isBlank_append] at hblank
      -- Nothing but blanks is left of a trimmed text only if it is empty.
      rw [← h.trim_eq, Text.trim, List.dropWhile_eq_nil_iff.2 fun c hc =>
        List.all_eq_true.1 hblank c hc]
      rfl
  | false =>
      rw [stripLine_of_not_isBlank hblank, hdrop]
      refine dropRightWhile_indent_eq_self fun c hc => Bool.eq_false_iff.2 fun hindent => ?_
      have hlast := ((Text.trim_eq_self_iff spelled).1 h.trim_eq).2
      rw [Option.mem_def.1 hc] at hlast
      exact absurd (isBlank_of_isIndent hindent) (by simpa using hlast)

/-- The indentation of the rows is all the indentation that they have. -/
theorem Rows.commonIndent_eq (h : Rows k lines rows) : commonIndent rows = k := by
  have hall : ∀ row ∈ indentedLines rows, indentLength row = k := by
    induction h with
    | last hline => exact List.forall_mem_singleton.2 hline.indentLength_row
    | line hline rest ih =>
        rw [indentedLines_cons _ rest.ne_nil]
        split
        · exact ih
        · exact List.forall_mem_cons.2 ⟨hline.indentLength_row, ih⟩
    | empty rest ih =>
        rw [indentedLines_cons _ rest.ne_nil]
        exact ih
  obtain ⟨row, hrow⟩ := List.exists_mem_of_ne_nil _ (indentedLines_ne_nil h.ne_nil)
  exact (commonIndent_eq_iff h.ne_nil).2
    ⟨⟨row, hrow, hall row hrow⟩, fun other hother => (hall other hother).ge⟩

theorem Rows.spells (h : Rows k lines rows) :
    List.Forall₂ (Spells []) lines (stripLines rows) := by
  have hrow {line spelled : Text} (hline : SpellsLine line spelled) :
      Spells [] line (stripLine k (spaces k ++ spelled)) := by
    rw [hline.stripLine_row]
    exact hline.spells
  rw [stripLines, h.commonIndent_eq]
  induction h with
  | last hline => exact .cons (hrow hline) .nil
  | line hline _ ih => exact .cons (hrow hline) ih
  | empty _ ih => exact .cons .nil ih

/-! ### Lines can be spelled -/

/-- A code, by an escape if it may need one. -/
def escapedCode (c : Code) : Text :=
  if c.isBlank || c = '\\' || c = '"' then
    ('\\' : Code) :: ('u' : Code) :: Text.Quoted.hex 4 c.val
  else [c]

theorem spelling_escapedCode (after : Text) (c : Code) : Spelling after c (escapedCode c) := by
  rw [escapedCode]
  split
  · next hescaped =>
    have hlt : c.val < 16 ^ 4 := by
      have hall : ∀ n ∈ blanks, n < 16 ^ 4 := by decide
      simp only [Bool.or_eq_true, decide_eq_true_eq] at hescaped
      obtain (hblank | rfl) | rfl := hescaped
      · exact hall _ (Code.mem_blanks hblank)
      · decide
      · decide
    have hval : (⟨Text.toNat 16 (Text.Quoted.hex 4 c.val)⟩ : Code) = c :=
      congrArg Code.mk ((Json.toNat_hex 4 c.val).trans (Nat.mod_eq_of_lt hlt))
    have hspelling := @Spelling.unicode after ['u'] (Text.Quoted.hex 4 c.val) (by simp) (by simp)
      (Json.length_hex 4 c.val) fun d hd => Json.isHexDigit_of_mem_hex hd
    rw [hval] at hspelling
    exact hspelling
  · next hplain =>
    simp only [Bool.or_eq_true, decide_eq_true_eq, not_or] at hplain
    exact .itself hplain.1.2 hplain.2

theorem not_isBlank_of_isHexDigit {c : Code} (h : c.isHexDigit = true) : c.isBlank = false := by
  refine Bool.eq_false_iff.2 fun hblank => ?_
  have hall : ∀ n ∈ blanks, (Code.mk n).isHexDigit = false := by decide
  have := hall c.val (Code.mem_blanks hblank)
  simp_all

theorem not_isBlank_of_mem_escapedCode {c d : Code} (h : d ∈ escapedCode c) :
    d.isBlank = false := by
  rw [escapedCode] at h
  split at h
  · obtain rfl | rfl | hdigit := by simpa using h
    · rfl
    · rfl
    · exact not_isBlank_of_isHexDigit (Json.isHexDigit_of_mem_hex hdigit)
  · next hplain =>
    obtain rfl := List.mem_singleton.1 h
    simp_all

/-- A line with an escape for each code that may need one. -/
def escapedLine (line : Text) : Text := line.flatMap escapedCode

theorem spells_escapedLine (line : Text) : Spells [] line (escapedLine line) := by
  induction line with
  | nil => exact Spells.nil
  | cons c rest ih => exact Spells.cons (spelling_escapedCode _ c) ih

theorem spellsLine_escapedLine (line : Text) : SpellsLine line (escapedLine line) := by
  have hkept : ∀ c ∈ escapedLine line, c.isBlank = false := by
    intro c hc
    obtain ⟨d, -, hc⟩ := List.mem_flatMap.1 hc
    exact not_isBlank_of_mem_escapedCode hc
  refine ⟨spells_escapedLine line, fun hc => absurd (hkept _ hc) (by decide), ?_⟩
  refine (Text.trim_eq_self_iff _).2 ⟨?_, ?_⟩
  · cases hhead : (escapedLine line).head? with
    | none => rfl
    | some c => exact hkept c (List.mem_of_head? hhead)
  · cases hlast : (escapedLine line).getLast? with
    | none => rfl
    | some c => exact hkept c (List.mem_of_getLast? hlast)

theorem exists_rows (k : Nat) (h : lines ≠ []) : ∃ rows, Rows k lines rows := by
  induction lines with
  | nil => exact absurd rfl h
  | cons line lines ih =>
      have hline := spellsLine_escapedLine line
      by_cases hnil : lines = []
      · rw [hnil]
        exact ⟨_, .last hline⟩
      · obtain ⟨rows, hrows⟩ := ih hnil
        exact ⟨_, .line hline hrows⟩

/-! ### Blocks -/

/-- A content between three quotes on either side. -/
def blockQuoted (content : Text) : Text :=
  ['"', '"', '"'] ++ content ++ ['"', '"', '"']

theorem body_blockQuoted (content : Text) :
    Literal.body (blockQuoted content) = stripBlock content := by
  have hblock : isBlockLiteral (blockQuoted content) = true := by
    simp [isBlockLiteral, blockQuoted, isQuote]
  rw [Literal.body, hblock]
  simp [blockQuoted]

theorem value_of_rows_apart {s : Text} {ruledRows : List (Text.Terminator × Text)}
    (h : Rows k (Text.splitOn '\n' s) (ruledRows.map Prod.snd)) (hapart : Text.Apart ruledRows) :
    value (blockQuoted (Text.ruled ruledRows)) = s := by
  have hlines := h.isLine fun line hline => Text.sep_notMem_of_mem_splitOn hline
  have hsplit := Text.splitOn_ruled
    (fun row hrow => hlines row.2 (List.mem_map_of_mem hrow)) hapart
  rw [value, body_blockQuoted, stripBlock_eq, blockLines_of_splitOn h.ne_nil hsplit,
    unescape_join h.spells, Text.join_splitOn]

/-- Any text can be carried by a text block: for each indentation there are rows that its lines can
be written in. However they are written, with one kind of terminator before each row, or with any
kinds as long as no two make one, the block evaluates to the text. -/
theorem value_of_rows (k : Nat) (s : Text) :
    (∃ rows, Rows k (Text.splitOn '\n' s) rows) ∧
      ∀ {rows : List Text}, Rows k (Text.splitOn '\n' s) rows →
        (∀ terminator : Text.Terminator,
          value (blockQuoted (Text.ruled (rows.map (terminator, ·)))) = s) ∧
        ∀ {ruledRows : List (Text.Terminator × Text)}, ruledRows.map Prod.snd = rows →
          Text.Apart ruledRows → value (blockQuoted (Text.ruled ruledRows)) = s := by
  refine ⟨exists_rows k (Text.splitOn_ne_nil _ _), fun {rows} hrows =>
    ⟨fun terminator => ?_, fun {ruledRows} hruled hapart => ?_⟩⟩
  · refine value_of_rows_apart (k := k) ?_ (Text.apart_of_same terminator rows)
    rw [List.map_map]
    exact (List.map_id rows).symm ▸ hrows
  · exact value_of_rows_apart (hruled ▸ hrows) hapart

/-- A text of three lines with a blank at either end and an empty line in the middle. -/
def blankEnded : Text := " a\n\n\"\t"

/-- Rows that it can be written in, each after a terminator of another kind. -/
def blankEndedRows : List (Text.Terminator × Text) :=
  [(.ret, "  \\040a"), (.returnFeed, ""), (.feed, "  \\\"\\u0009")]

theorem value_of_rows_blankEnded :
    Rows 2 (Text.splitOn '\n' blankEnded) (blankEndedRows.map Prod.snd) ∧
      Text.Apart blankEndedRows ∧
      Text.ruled blankEndedRows = "\r  \\040a\r\n\n  \\\"\\u0009" ∧
      value (blockQuoted (Text.ruled blankEndedRows)) = blankEnded ∧
      value (blockQuoted "\r  \\040a\r\r  \\\"\\u0009") = blankEnded := by
  have hoctal : IsOctal ['0', '4', '0'] := by decide
  have hfirst : SpellsLine " a" "\\040a" :=
    ⟨.cons (.octal hoctal (by decide)) (.cons (.itself (by decide) (by decide)) .nil),
      by decide, by decide⟩
  have hquote : (('"', 34) : Char × Nat) ∈ letterCodes := by decide
  have hdigits : ∀ d ∈ (['0', '0', '0', '9'] : Text), d.isHexDigit = true := by decide
  have hlast : SpellsLine "\"\t" "\\\"\\u0009" :=
    ⟨.cons (.letter hquote) (.cons (@Spelling.unicode _ ['u'] _ (by decide) (by decide) rfl hdigits)
      .nil), by decide, by decide⟩
  have hrows : Rows 2 (Text.splitOn '\n' blankEnded) (blankEndedRows.map Prod.snd) :=
    .line hfirst (.empty (.last hlast))
  have hapart : Text.Apart blankEndedRows := by
    simp only [Text.Apart, blankEndedRows, List.isChain_cons_cons]
    decide
  obtain ⟨-, hvalue⟩ := value_of_rows 2 blankEnded
  exact ⟨hrows, hapart, rfl, (hvalue hrows).2 rfl hapart, (hvalue hrows).1 .ret⟩

end LogHarvest.Java.Literal
