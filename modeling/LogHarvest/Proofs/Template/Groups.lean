import LogHarvest.Proofs.Template.Reading

/-!
# Groups of one's own

The text that stands for a marker is a parameter of compiling. With some texts no template compiles
that has a marker, but such a template is then malformed, and a harvest reports it and goes on. The
groups with which nothing worse can happen are the safe ones. The usual group is safe since every
template compiles; a lone closing parenthesis is safe since reading stops at the first one.
-/

namespace LogHarvest.Template

open Pattern Pattern.Reader

/-- With a safe group every template compiles or is malformed, so none stops a harvest. -/
def SafeGroup (group : Text) : Prop :=
  ∀ template refusal source, compileWith group template ≠ .error (.unsupported refusal source)

theorem safeGroup_wordGroup : SafeGroup wordGroup := by
  intro template refusal source h
  have hcompile : compileWith wordGroup template = .ok (pattern template) := compile_eq template
  simp [hcompile] at h

/-- If reading fails with a malformed pattern at most, so does compiling. -/
theorem safeGroup_of_read {group : Text}
    (h : ∀ t refusal, Pattern.read (escapeWith group t) = .error refusal →
      ∃ cause place, refusal = .malformed cause place) : SafeGroup group := by
  intro t refusal source hcompile
  unfold compileWith at hcompile
  dsimp only at hcompile
  split at hcompile
  · simp at hcompile
  · simp at hcompile
  · next refused hmalformed hread =>
    obtain ⟨cause, place, rfl⟩ := h t refused hread
    exact hmalformed cause place rfl

/-! ### A closing parenthesis -/

/-- The group that closes one which was never opened. -/
def closingGroup : Text := [')']

theorem ofText_closingGroup (t : Text) :
    Token.ofText (closingGroup ++ t) = .code ')' :: Token.ofText t := rfl

theorem clear_escapeWith_closingGroup (t : Text) :
    Clear (Token.ofText (escapeWith closingGroup t)) := by
  induction t using marker_induction with
  | nil => simp [Clear, escapeWith, Token.ofText, Token.ofTextAfter]
  | marker t _ => rw [escapeWith_marker, ofText_closingGroup]; simp [Clear]
  | literal c t h _ =>
      rw [escapeWith_literal _ h, ofText_escapeCode]
      exact clear_codeTokens c _

/-- A reader has come to the end of the text or to a closing parenthesis, and has met neither modes
nor conditions on the way. -/
structure Halted (s s' : ReaderState) : Prop where
  tokens : s'.tokens = [] ∨ s'.tokens.head? = some (.code ')')
  modes : s'.modes = s.modes
  asked : s'.asked = s.asked
  uneven : s'.uneven = s.uneven

/-- The items of a template are read up to its first marker. -/
theorem readItems_closingGroup (t : Text) (s : ReaderState) (fuel : Nat) (first : Bool)
    (acc : List Item) (hs : s.tokens = Token.ofText (escapeWith closingGroup t))
    (hfuel : (escapeWith closingGroup t).length < fuel) :
    ∃ items s', readItems fuel first Modes.none acc s = .ok (items, s') ∧ Halted s s' := by
  induction t using marker_induction generalizing s fuel acc with
  | nil =>
      obtain ⟨fuel, rfl⟩ : ∃ n, fuel = n + 1 := Nat.exists_eq_add_one.mpr (by omega)
      have htokens : s.tokens = [] := hs
      have hpeek : peek s = .ok (none, s) := by rw [peek, htokens]; rfl
      refine ⟨acc, s, ?_, .inl htokens, rfl, rfl, rfl⟩
      rw [readItems, bind_ok _ hpeek]
      rfl
  | marker t _ =>
      obtain ⟨fuel, rfl⟩ : ∃ n, fuel = n + 1 := Nat.exists_eq_add_one.mpr (by omega)
      rw [escapeWith_marker, ofText_closingGroup] at hs
      refine ⟨acc, s, ?_, .inr (by rw [hs]; rfl), rfl, rfl, rfl⟩
      rw [readItems, bind_ok _ (peek_eq hs)]
      rfl
  | literal c t h ih =>
      have hlen : 1 ≤ (escapeCode c).length := by
        unfold escapeCode
        split_ifs <;> simp
      rw [escapeWith_literal _ h, List.length_append] at hfuel
      rw [escapeWith_literal _ h, ofText_escapeCode] at hs
      obtain ⟨fuel, rfl⟩ : ∃ n, fuel = n + 1 := ⟨fuel - 1, by omega⟩
      rw [readItems_literal hs (clear_escapeWith_closingGroup t)]
      obtain ⟨items, s', hitems, hhalted⟩ :=
        ih (s.advance (escapeCode c).length _) fuel (.plain (Expr.literal c) :: acc) rfl (by omega)
      exact ⟨items, s', hitems, hhalted.tokens, hhalted.modes, hhalted.asked, hhalted.uneven⟩

/-- A reader that has stopped at the first closing parenthesis reports it, and nothing else can be
wrong with the pattern. -/
theorem checkWhole_of_halted {source : Text} {s : ReaderState} {expr : Expr}
    (h : Halted (ReaderState.start source) s) {refusal : Refusal}
    (hcheck : checkWhole expr s = .error refusal) :
    ∃ cause place, refusal = .malformed cause place := by
  have hmodes : s.modes = Modes.none := h.modes
  have hasked : s.asked = [] := h.asked
  have huneven : s.uneven = false := h.uneven
  have hascii : (Modes.none.ascii && Modes.none.unicode) = false := rfl
  have htemplate : Modes.none.template = false := rfl
  unfold checkWhole at hcheck
  cases htokens : s.tokens with
  | nil =>
      rw [hmodes, hasked, huneven, htokens] at hcheck
      cases hcheck
  | cons t rest =>
      rw [hmodes, htokens] at hcheck
      exact ⟨_, _, (Except.error.inj hcheck).symm⟩

theorem safeGroup_closingGroup : SafeGroup closingGroup := by
  refine safeGroup_of_read fun t refusal hread => ?_
  let source := escapeWith closingGroup t
  let start := ReaderState.start source
  have hclear : checkNext start = .ok () := checkNext_of_clear (clear_escapeWith_closingGroup t)
  obtain ⟨items, s, hitems, hhalted⟩ := readItems_closingGroup t start (8 * source.length + 6) true
    [] rfl (by simp only [source]; omega)
  have hbar : accept '|' s = .ok (false, s) := by
    refine accept_ne ?_
    obtain hend | hclose := hhalted.tokens
    · simp [hend]
    · simp [hclose]
  have hbranches : readBranches (8 * source.length + 7) true true Modes.none start =
      .ok ([Item.toExpr items], s) := by
    rw [readBranches, bind_ok _ hitems, bind_ok _ hbar]
    rfl
  have halternatives : readAlternatives (readFuel source) true Modes.none start =
      .ok (Item.toExpr items, s) := by
    rw [readFuel, readAlternatives, bind_ok _ hbranches]
    rfl
  have hwhole : (checkWhole (Item.toExpr items) s >>= fun _ =>
      pure (Pattern.mk source (Item.toExpr items) s.groups.length)) = .error refusal := by
    calc (checkWhole (Item.toExpr items) s >>= fun _ =>
          pure (Pattern.mk source (Item.toExpr items) s.groups.length))
        = (checkNext start >>= fun _ =>
            readAlternatives (readFuel source) true Modes.none start >>= fun p =>
            checkWhole p.1 p.2 >>= fun _ => pure (Pattern.mk source p.1 p.2.groups.length)) := by
          rw [hclear, halternatives]
          rfl
      _ = Pattern.read source := rfl
      _ = .error refusal := hread
  cases hcheck : checkWhole (Item.toExpr items) s with
  | ok =>
      rw [hcheck] at hwhole
      cases hwhole
  | error refused =>
      rw [hcheck] at hwhole
      obtain rfl : refused = refusal := Except.error.inj hwhole
      exact checkWhole_of_halted hhalted hcheck

end LogHarvest.Template
