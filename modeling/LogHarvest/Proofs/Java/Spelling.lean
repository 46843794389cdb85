import LogHarvest.Proofs.Java.Literal

/-!
# Texts spelled in a literal

Each code of a text can be spelled in several ways, and a literal may choose another one for each.
Reading takes the longest escape there is, so an octal escape has to end before a digit that it
could take in as well. An escape is read with whatever comes after it, and reading goes on after
it: what an escape stands for is never looked at again.
-/

namespace LogHarvest.Java.Literal

/-! ### Spellings -/

/-- The letters of the escapes with one letter, and the codes that these stand for. -/
def letterCodes : List (Char × Nat) :=
  [('b', 8), ('t', 9), ('n', 10), ('f', 12), ('r', 13), ('s', 32), ('"', 34), ('\'', 39),
    ('\\', 92)]

/-- The digits of an octal escape: one to three, for a number up to 255. -/
structure IsOctal (digits : Text) : Prop where
  ne_nil : digits ≠ []
  length_le : digits.length ≤ 3
  digit : ∀ d ∈ digits, d.isOctalDigit = true
  value_le : Text.toNat 8 digits ≤ 255

instance : DecidablePred IsOctal := fun digits =>
  decidable_of_iff (digits ≠ [] ∧ digits.length ≤ 3 ∧ (∀ d ∈ digits, d.isOctalDigit = true) ∧
    Text.toNat 8 digits ≤ 255)
    ⟨fun ⟨hne, hlength, hdigit, hvalue⟩ => ⟨hne, hlength, hdigit, hvalue⟩,
      fun ⟨hne, hlength, hdigit, hvalue⟩ => ⟨hne, hlength, hdigit, hvalue⟩⟩

/-- The ways to spell a code before some text. -/
inductive Spelling (after : Text) : Code → Text → Prop
  | itself {c : Code} (hbackslash : c ≠ '\\') (hquote : c ≠ '"') : Spelling after c [c]
  | letter {e : Char × Nat} (h : e ∈ letterCodes) : Spelling after ⟨e.2⟩ ['\\', e.1]
  | octal {digits : Text} (h : IsOctal digits)
      (hend : ∀ d ∈ after.head?, ¬IsOctal (digits ++ [d])) :
      Spelling after ⟨Text.toNat 8 digits⟩ ('\\' :: digits)
  | unicode {us digits : Text} (hne : us ≠ []) (hus : ∀ u ∈ us, u = 'u')
      (hlength : digits.length = 4) (hdigits : ∀ d ∈ digits, d.isHexDigit = true) :
      Spelling after ⟨Text.toNat 16 digits⟩ ('\\' :: (us ++ digits))

/-- The bodies that spell a text before some other text, each code in a way of its own. -/
inductive Spells (after : Text) : Text → Text → Prop
  | nil : Spells after [] []
  | cons {c : Code} {spelled s body : Text} (first : Spelling (body ++ after) c spelled)
      (rest : Spells after s body) : Spells after (c :: s) (spelled ++ body)

/-! ### Reading one escape -/

variable {after : Text}

theorem unescapeFrom_append (done rest : Text) :
    unescapeFrom done.length (done ++ rest) = unescape rest := by
  induction done with
  | nil => rfl
  | cons c done ih => exact ih

theorem unescape_plain {c : Code} (hc : c ≠ '\\') (rest : Text) :
    unescape (c :: rest) = c :: unescape rest := by
  rw [unescape, unescapeFrom, if_neg hc, unescape]

/-- Reading goes on after an escape. -/
theorem unescape_escape {escape image : Text}
    (h : readEscape? (escape ++ after) = some (image, escape.length)) :
    unescape (Code.ofChar '\\' :: (escape ++ after)) = image ++ unescape after := by
  rw [unescape, unescapeFrom, if_pos rfl, h]
  exact congrArg (image ++ ·) (unescapeFrom_append escape after)

theorem readEscape_letter {e : Char × Nat} (h : e ∈ letterCodes) :
    readEscape? ((e.1 : Code) :: after) = some ([⟨e.2⟩], 1) := by
  have hall : ∀ e ∈ letterCodes, (e.1 : Code) ≠ 'u' ∧ (e.1 : Code).isOctalDigit = false ∧
      (e.1 : Code) ≠ '\n' ∧
      (simpleEscapes.find? fun f => (e.1 : Code) = f.1).map (fun f => (f.2 : Code)) =
        some ⟨e.2⟩ := by decide
  obtain ⟨hu, hoctal, hfeed, hfind⟩ := hall e h
  obtain ⟨f, hf, hcode⟩ := Option.map_eq_some_iff.1 hfind
  rw [readEscape?, if_neg hu, if_neg (by simp [hoctal]), if_neg hfeed, hf, Option.map_some, hcode]

/-! ### Octal escapes -/

theorem digitValue_of_isOctalDigit {d : Code} (h : d.isOctalDigit = true) :
    d.digitValue = d.val - 48 ∧ 48 ≤ d.val ∧ d.val ≤ 55 := by
  simp only [Code.isOctalDigit, Bool.and_eq_true, decide_eq_true_eq] at h
  have hdigit : d.isAsciiDigit = true := by
    simp only [Code.isAsciiDigit, Bool.and_eq_true, decide_eq_true_eq]
    omega
  exact ⟨if_pos hdigit, h⟩

/-- An octal escape has up to three digits, and up to two if the first is above three. -/
theorem isOctal_cons_iff {d : Code} {digits : Text} :
    IsOctal (d :: digits) ↔ (∀ e ∈ d :: digits, e.isOctalDigit = true) ∧
      (d :: digits).length ≤ if d.val ≤ 51 then 3 else 2 := by
  have hvalue (hdigit : ∀ e ∈ d :: digits, e.isOctalDigit = true)
      (hlength : digits.length ≤ 2) :
      Text.toNat 8 (d :: digits) ≤ 255 ↔ (d.val ≤ 51 ∨ digits.length ≤ 1) := by
    obtain ⟨hd, hdigits⟩ := List.forall_mem_cons.1 hdigit
    have hd := digitValue_of_isOctalDigit hd
    match digits, hdigits, hlength with
    | [], _, _ =>
        simp only [Text.toNat, List.foldl_cons, List.foldl_nil, List.length_nil]
        omega
    | [e], hdigits, _ =>
        have he := digitValue_of_isOctalDigit (hdigits e (by simp))
        simp only [Text.toNat, List.foldl_cons, List.foldl_nil, List.length_cons, List.length_nil]
        omega
    | [e, f], hdigits, _ =>
        have he := digitValue_of_isOctalDigit (hdigits e (by simp))
        have hf := digitValue_of_isOctalDigit (hdigits f (by simp))
        simp only [Text.toNat, List.foldl_cons, List.foldl_nil, List.length_cons, List.length_nil]
        omega
  constructor
  · intro h
    have hlength := h.length_le
    rw [List.length_cons] at hlength
    have := (hvalue h.digit (by omega)).1 h.value_le
    refine ⟨h.digit, ?_⟩
    rw [List.length_cons]
    split <;> omega
  · rintro ⟨hdigit, hlength⟩
    rw [List.length_cons] at hlength
    refine ⟨List.cons_ne_nil _ _, ?_, hdigit, (hvalue hdigit ?_).2 ?_⟩
    · rw [List.length_cons]
      split at hlength <;> omega
    · split at hlength <;> omega
    · split at hlength <;> omega

/-- All digits of an octal escape are read, if the next code cannot be one more. -/
theorem octalLength_append {digits : Text} (h : IsOctal digits)
    (hend : ∀ d ∈ after.head?, ¬IsOctal (digits ++ [d])) :
    octalLength (digits ++ after) = digits.length := by
  cases digits with
  | nil => exact absurd rfl h.ne_nil
  | cons d digits =>
      obtain ⟨hdigit, hlength⟩ := isOctal_cons_iff.1 h
      have hrun : ((d :: digits ++ after).takeWhile Code.isOctalDigit).length =
          (d :: digits).length + (after.takeWhile Code.isOctalDigit).length := by
        rw [List.takeWhile_append_of_pos hdigit, List.length_append]
      change min ((d :: digits ++ after).takeWhile Code.isOctalDigit).length
        (if d.val ≤ 51 then 3 else 2) = (d :: digits).length
      rw [hrun]
      cases after with
      | nil =>
          rw [List.takeWhile_nil, List.length_nil]
          omega
      | cons e after =>
          by_cases he : e.isOctalDigit = true
          · -- One more digit would be too many.
            have hmore : ¬(d :: digits ++ [e]).length ≤ if d.val ≤ 51 then 3 else 2 := by
              intro hle
              refine hend e rfl (isOctal_cons_iff.2 ⟨?_, hle⟩)
              exact List.forall_mem_append.2 ⟨hdigit, by simpa using he⟩
            rw [List.length_append, List.length_singleton] at hmore
            omega
          · rw [List.takeWhile_cons_of_neg he, List.length_nil]
            omega

theorem readEscape_octal {digits : Text} (h : IsOctal digits)
    (hend : ∀ d ∈ after.head?, ¬IsOctal (digits ++ [d])) :
    readEscape? (digits ++ after) = some ([⟨Text.toNat 8 digits⟩], digits.length) := by
  have hlength := octalLength_append h hend
  cases digits with
  | nil => exact absurd rfl h.ne_nil
  | cons d digits =>
      have hd : d.isOctalDigit = true := h.digit d List.mem_cons_self
      have hu : d ≠ 'u' := by
        rintro rfl
        exact absurd hd (by decide)
      rw [List.cons_append] at hlength ⊢
      rw [readEscape?, if_neg hu, if_pos hd, hlength, ← List.cons_append]
      dsimp only
      rw [List.take_left]

/-! ### Unicode escapes -/

theorem readEscape_unicode {us digits : Text} (hne : us ≠ []) (hus : ∀ u ∈ us, u = 'u')
    (hlength : digits.length = 4) (hdigits : ∀ d ∈ digits, d.isHexDigit = true) :
    readEscape? (us ++ digits ++ after) =
      some ([⟨Text.toNat 16 digits⟩], (us ++ digits).length) := by
  have hrun : ((us ++ digits ++ after).takeWhile (· = ('u' : Code))).length = us.length := by
    obtain ⟨d, digits, rfl⟩ := List.exists_cons_of_length_pos (by omega : 0 < digits.length)
    have hd : d ≠ 'u' := by
      rintro rfl
      exact absurd (hdigits 'u' List.mem_cons_self) (by decide)
    rw [List.append_assoc, List.takeWhile_append_of_pos (by simpa using hus), List.cons_append,
      List.takeWhile_cons_of_neg (by simpa using hd), List.append_nil]
  have htake : (((us ++ digits ++ after).drop us.length).take 4) = digits := by
    rw [List.append_assoc, List.drop_left, ← hlength, List.take_left]
  obtain ⟨u, us, rfl⟩ := List.exists_cons_of_ne_nil hne
  obtain rfl := hus u List.mem_cons_self
  rw [List.cons_append, List.cons_append] at hrun htake ⊢
  rw [readEscape?, if_pos rfl]
  dsimp only
  rw [hrun, htake, if_pos ⟨hlength, List.all_eq_true.2 hdigits⟩, ← List.cons_append,
    List.length_append, hlength]

/-! ### Reading spelled texts -/

/-- A spelled code is read, and what it stands for is not scanned again. -/
theorem Spelling.unescape_append {c : Code} {spelled : Text} (h : Spelling after c spelled) :
    unescape (spelled ++ after) = c :: unescape after := by
  cases h with
  | itself hbackslash hquote => exact unescape_plain hbackslash after
  | letter h => exact @unescape_escape after [_] _ (readEscape_letter h)
  | octal h hend => exact unescape_escape (readEscape_octal h hend)
  | unicode hne hus hlength hdigits =>
      exact unescape_escape (readEscape_unicode hne hus hlength hdigits)

theorem Spells.unescape_append {s body : Text} (h : Spells after s body) :
    unescape (body ++ after) = s ++ unescape after := by
  induction h with
  | nil => rfl
  | cons first rest ih =>
      rw [List.append_assoc, first.unescape_append, ih, List.cons_append]

theorem Spelling.exists_cons {c : Code} {spelled : Text} (h : Spelling after c spelled) :
    ∃ first others, spelled = first :: others ∧ first ≠ '"' := by
  cases h with
  | itself hbackslash hquote => exact ⟨_, _, rfl, hquote⟩
  | letter h => exact ⟨_, _, rfl, by decide⟩
  | octal h hend => exact ⟨_, _, rfl, by decide⟩
  | unicode hne hus hlength hdigits => exact ⟨_, _, rfl, by decide⟩

/-- A spelled text never starts with a quote. -/
theorem Spells.head_ne_quote {s body : Text} (h : Spells after s body) :
    body.head? ≠ some ('"' : Code) := by
  cases h with
  | nil => simp
  | cons first rest =>
      obtain ⟨c, others, rfl, hc⟩ := first.exists_cons
      simpa using hc

/-- A body between quotes. -/
def quoted (body : Text) : Text := ('"' : Code) :: (body ++ [('"' : Code)])

/-- What stands between quotes is the body, unless it starts with a quote itself. -/
theorem body_quoted {body : Text} (h : body.head? ≠ some ('"' : Code)) :
    Literal.body (quoted body) = body := by
  have hblock : isBlockLiteral (quoted body) = false := by
    cases body with
    | nil => decide
    | cons c rest =>
        have hc : isQuote c = false := by simpa [isQuote] using h
        simp [isBlockLiteral, quoted, hc]
  have hplain : isPlainLiteral (quoted body) = true := by
    simp [isPlainLiteral, quoted, isQuote]
  rw [Literal.body, hblock, hplain]
  simp [quoted]

/-- A literal in which each code of a text is spelled in some way evaluates to the text. Whatever
comes after a spelled text is read as if it stood alone, so nothing that an escape stands for is
ever scanned again. -/
theorem value_of_spells {s body : Text} :
    (Spells [] s body → value (quoted body) = s) ∧
      ∀ after, Spells after s body → unescape (body ++ after) = s ++ unescape after := by
  refine ⟨fun h => ?_, fun after h => h.unescape_append⟩
  have hbody := h.unescape_append
  rw [List.append_nil] at hbody
  rw [value, body_quoted h.head_ne_quote, hbody]
  exact List.append_nil s

/-- Backslashes spelled in three ways before codes that would make escapes of them, and an octal
escape of two digits before a third one that it cannot take in. -/
theorem value_of_spells_backslashes :
    Spells [] (Text.ofString "\\n\\7\\u0041'1")
        (Text.ofString "\\\\n\\1347\\uu005Cu0041\\471") ∧
      value (quoted (Text.ofString "\\\\n\\1347\\uu005Cu0041\\471")) =
        Text.ofString "\\n\\7\\u0041'1" := by
  have itself {after : Text} (c : Char) (h : (c : Code) ≠ '\\' ∧ (c : Code) ≠ '"') :
      Spelling after (c : Code) [(c : Code)] := .itself h.1 h.2
  have hletter : (('\\', 92) : Char × Nat) ∈ letterCodes := by decide
  have hthree : IsOctal ['1', '3', '4'] := by decide
  have htwo : IsOctal ['4', '7'] := by decide
  have hus : ∀ u ∈ (['u', 'u'] : Text), u = 'u' := by decide
  have hdigits : ∀ d ∈ (['0', '0', '5', 'C'] : Text), d.isHexDigit = true := by decide
  have h : Spells [] (Text.ofString "\\n\\7\\u0041'1")
      (Text.ofString "\\\\n\\1347\\uu005Cu0041\\471") :=
    .cons (.letter hletter) <| .cons (itself 'n' (by decide)) <|
    .cons (.octal hthree (by decide)) <| .cons (itself '7' (by decide)) <|
    .cons (.unicode (by decide) hus rfl hdigits) <|
    .cons (itself 'u' (by decide)) <| .cons (itself '0' (by decide)) <|
    .cons (itself '0' (by decide)) <| .cons (itself '4' (by decide)) <|
    .cons (itself '1' (by decide)) <|
    .cons (.octal htwo (by decide)) <| .cons (itself '1' (by decide)) .nil
  exact ⟨h, value_of_spells.1 h⟩

end LogHarvest.Java.Literal
