import LogHarvest.Proofs.Pattern.Sequence
import LogHarvest.Proofs.Template.Pieces
import LogHarvest.Template.Basic
import Mathlib.Tactic.FinCases
import Mathlib.Tactic.SplitIfs

/-!
# Reading the pattern text of a template

The reader of patterns meets the text of a template as a row of tokens: one to three for each
literal code, six for each marker. Every such stretch of tokens adds one expression to those
read before and leaves the reader as it was but for its place and the widths of the groups, so
the whole text is read as a row of literals and word groups, whatever stands next to what.
-/

namespace LogHarvest

namespace Pattern

/-- A reader further on, with some tokens left. -/
def ReaderState.advance (s : ReaderState) (count : Nat) (rest : List Token) : ReaderState :=
  { s with place := s.place + count, tokens := rest }

/-- A reader with one more group, which has been closed. -/
def ReaderState.withGroup (s : ReaderState) (w : Width) : ReaderState :=
  { s with groups := s.groups ++ [some w] }

@[simp] theorem Modes.verbose_none : Modes.none.verbose = false := rfl

/-- The width of a word group. -/
def Width.word : Width := ⟨1, unbounded⟩

namespace Reader

variable {α β : Type} {s s' : ReaderState}

/-- What follows a reader that succeeds goes on from its result. -/
theorem bind_ok {m : Reader α} {a : α} (f : α → Reader β) (h : m s = .ok (a, s')) :
    (m >>= f) s = f a s' := by
  change (m s >>= fun p => f p.1 p.2) = f a s'
  rw [h]
  rfl

theorem get_eq : (get : Reader ReaderState) s = .ok (s, s) := rfl

theorem closeGroup_eq (number : Nat) (body : Expr) :
    closeGroup number body s = .ok ((), { s with
      groups := s.groups.set (number - 1) (some (body.width (widthOf s))) }) := rfl

/-- No lone backslash comes next, so the next token can be taken. -/
def Clear (ts : List Token) : Prop := ts.head? ≠ some .dangling

theorem checkNext_of_clear (h : Clear s.tokens) : checkNext s = .ok () := by
  unfold checkNext
  split
  · next hs => exact absurd (by rw [hs]; rfl) h
  · rfl

theorem next?_eq {t : Token} {rest : List Token} (hs : s.tokens = t :: rest)
    (hrest : Clear rest) : next? s = .ok (some t, s.advance t.width rest) := by
  have hcheck : checkNext (s.advance t.width rest) = .ok () := checkNext_of_clear hrest
  unfold next?
  rw [hs]
  change (checkNext (s.advance t.width rest) >>= fun _ =>
    pure (some t, s.advance t.width rest)) = _
  rw [hcheck]
  rfl

theorem peek_eq {t : Token} {rest : List Token} (hs : s.tokens = t :: rest) :
    peek s = .ok (some t, s) := by
  rw [peek, hs]
  rfl

theorem accept_self {c : Char} {rest : List Token} (hs : s.tokens = .code c :: rest)
    (hrest : Clear rest) : accept c s = .ok (true, s.advance 1 rest) := by
  rw [accept, bind_ok _ (peek_eq hs), if_pos rfl, bind_ok _ (next?_eq hs hrest)]
  rfl

theorem accept_ne {c : Char} (h : s.tokens.head? ≠ some (.code c)) :
    accept c s = .ok (false, s) := by
  have hpeek : peek s = .ok (s.tokens.head?, s) := rfl
  rw [accept, bind_ok _ hpeek, if_neg h]
  rfl

/-- An item is read off the front of the tokens and joins those before. -/
theorem readItems_item {t : Token} {rest : List Token} {fuel : Nat} {first : Bool}
    {acc acc' : List Item} (hs : s.tokens = t :: rest) (hrest : Clear rest)
    (hbar : t ≠ .code '|') (hclose : t ≠ .code ')') (hopen : t ≠ .code '(')
    (hitem : readItem Modes.none acc t (s.advance t.width rest) = .ok (acc', s')) :
    readItems (fuel + 1) first Modes.none acc s = readItems fuel first Modes.none acc' s' := by
  conv => lhs; unfold readItems
  rw [bind_ok _ (peek_eq hs)]
  simp only [if_neg (not_or.mpr ⟨hbar, hclose⟩)]
  rw [bind_ok _ (next?_eq hs hrest)]
  cases t with
  | code c =>
      have hc : c ≠ ('(' : Char) := fun h => hopen (congrArg Token.code h)
      simp only [Modes.verbose_none, Bool.false_and, Bool.false_eq_true, if_false, if_neg hc]
      exact bind_ok _ hitem
  | escape c => exact bind_ok _ hitem
  | dangling => exact bind_ok _ hitem

/-- A code that passes the test is taken with those after it. -/
theorem takeUpTo_cons {test : Code → Bool} {count : Nat} {c : Code} {rest : List Token}
    {taken : Text} (hs : s.tokens = .code c :: rest) (hrest : Clear rest) (hc : test c)
    (hmore : takeUpTo test count (s.advance 1 rest) = .ok (taken, s')) :
    takeUpTo test (count + 1) s = .ok (c :: taken, s') := by
  rw [takeUpTo, bind_ok _ (peek_eq hs)]
  simp only [hc, if_true]
  rw [bind_ok _ (next?_eq hs hrest)]
  exact bind_ok _ hmore

end Reader

end Pattern

namespace Template

open Pattern Pattern.Reader

variable {s : ReaderState} {rest : List Token} {fuel : Nat} {first : Bool} {acc : List Item}

/-! ### Literal codes -/

/-- The tokens of an escaped code. -/
def codeTokens (c : Code) : List Token :=
  if c = '|' then [.escape 'x', .code '7', .code 'c']
  else if c = '\n' then [.escape 'n']
  else if c = '\r' then [.escape 'r']
  else if c ∈ Text.ofChars specialCharacters then [.escape c]
  else [.code c]

theorem ofText_escapeCode (c : Code) (t : Text) :
    Token.ofText (escapeCode c ++ t) = codeTokens c ++ Token.ofText t := by
  unfold escapeCode codeTokens
  split
  · rfl
  split
  · rfl
  split
  · rfl
  split
  · rfl
  · next hc =>
      have hslash : c ≠ '\\' := by
        rintro rfl
        exact hc (by decide)
      simp [Token.ofText, Token.ofTextAfter, hslash]

theorem clear_codeTokens (c : Code) (ts : List Token) : Clear (codeTokens c ++ ts) := by
  unfold codeTokens Clear
  split_ifs <;> simp

/-- Every special character is read back from behind its backslash. -/
theorem readEscape_special {c : Code} (hc : c ∈ Text.ofChars specialCharacters) :
    readEscape Modes.none c = pure (.plain (Expr.literal c)) := by
  obtain ⟨ch, hch, rfl⟩ := List.mem_map.mp hc
  fin_cases hch <;> rfl

/-- The bar is read back from its number. -/
theorem readItem_bar (hs : s.tokens = [.code '7', .code 'c'] ++ rest) (hrest : Clear rest) :
    readItem Modes.none acc (.escape 'x') s =
      .ok (.plain (Expr.literal '|') :: acc, s.advance 2 rest) := by
  have hdigits : takeUpTo Code.isHexDigit 2 s = .ok (['7', 'c'], s.advance 2 rest) := by
    refine takeUpTo_cons hs (by simp [Clear]) (by decide) ?_
    exact takeUpTo_cons rfl hrest (by decide) rfl
  have hhex : readHex 'x' 2 s = .ok ('|', s.advance 2 rest) := by
    rw [readHex, bind_ok _ hdigits]
    rfl
  have hescape : readEscape Modes.none 'x' s =
      .ok (.plain (Expr.literal '|'), s.advance 2 rest) :=
    bind_ok (fun d => pure (Item.plain (Expr.literal d))) hhex
  exact bind_ok (fun item => pure (item :: acc)) hescape

/-- A code that is no special character is read as itself. -/
theorem readItem_plain {c : Code} (hc : c ∉ Text.ofChars specialCharacters) :
    readItem Modes.none acc (.code c) s = .ok (.plain (Expr.literal c) :: acc, s) := by
  have hne : ∀ ch ∈ specialCharacters, c ≠ (ch : Code) := fun ch hch h =>
    hc (h ▸ List.mem_map_of_mem hch)
  simp only [readItem, hne '[' (by decide), hne '*' (by decide), hne '+' (by decide),
    hne '?' (by decide), hne '\x7b' (by decide), hne '.' (by decide), hne '^' (by decide),
    hne '$' (by decide), or_self, if_false]
  rfl

/-- The tokens of a literal code are read as that code. -/
theorem readItems_literal {c : Code} (hs : s.tokens = codeTokens c ++ rest) (hrest : Clear rest) :
    readItems (fuel + 1) first Modes.none acc s =
      readItems fuel first Modes.none (.plain (Expr.literal c) :: acc)
        (s.advance (escapeCode c).length rest) := by
  unfold codeTokens at hs
  unfold escapeCode
  split_ifs at hs ⊢ with hbar hfeed hreturn hspecial
  · subst hbar
    refine readItems_item hs (by simp [Clear]) (by simp) (by simp) (by simp) ?_
    exact readItem_bar rfl hrest
  · subst hfeed
    exact readItems_item hs hrest (by simp) (by simp) (by simp) rfl
  · subst hreturn
    exact readItems_item hs hrest (by simp) (by simp) (by simp) rfl
  · refine readItems_item hs hrest (by simp) (by simp) (by simp) ?_
    change (readEscape Modes.none c >>= fun item => pure (item :: acc)) _ = _
    rw [readEscape_special hspecial]
    rfl
  · have hne : ∀ ch ∈ specialCharacters, Token.code c ≠ .code (ch : Code) := fun ch hch h =>
      hspecial (Token.code.inj h ▸ List.mem_map_of_mem hch)
    exact readItems_item hs hrest (fun h => hbar (Token.code.inj h)) (hne ')' (by decide))
      (hne '(' (by decide)) (readItem_plain hspecial)

/-! ### Markers -/

/-- The tokens of the group that stands for a marker. -/
def markerTokens : List Token :=
  [.code '(', .code '[', .escape 'w', .code ']', .code '+', .code ')']

theorem ofText_wordGroup (t : Text) :
    Token.ofText (wordGroup ++ t) = markerTokens ++ Token.ofText t := rfl

/-- The set of the group is read as the class of word codes. -/
theorem readSet_word (hs : s.tokens = .escape 'w' :: .code ']' :: rest) (hrest : Clear rest) :
    readSet Modes.none s = .ok (.plain (.one Expr.wordTest), s.advance 3 rest) := by
  have hmembers : readMembers Modes.none (s.place - 1) (s.tokens.length + 1) [] s =
      .ok ([.category ⟨.word, false, false⟩], s.advance 3 rest) := by
    have hword : next? s = .ok (some (.escape 'w'), s.advance 2 (.code ']' :: rest)) :=
      next?_eq hs (by simp [Clear])
    have hend : next? (s.advance 2 (.code ']' :: rest)) =
        .ok (some (.code ']'), s.advance 3 rest) := next?_eq rfl hrest
    have hdash : accept '-' (s.advance 2 (.code ']' :: rest)) =
        .ok (false, s.advance 2 (.code ']' :: rest)) := accept_ne (by simp [ReaderState.advance])
    have hmember : readMember Modes.none (.escape 'w') (s.advance 2 (.code ']' :: rest)) =
        .ok (.category ⟨.word, false, false⟩, s.advance 2 (.code ']' :: rest)) := rfl
    rw [hs, List.length_cons, readMembers, bind_ok _ hword]
    simp only [reduceCtorEq, false_and, if_false]
    rw [bind_ok _ hmember, bind_ok _ hdash]
    simp only [Bool.false_eq_true, if_false]
    rw [List.length_cons, readMembers, bind_ok _ hend]
    rfl
  have hplace : here s = .ok (s.place, s) := rfl
  have hnegated : accept '^' s = .ok (false, s) := accept_ne (by simp [hs])
  rw [readSet, bind_ok _ hplace, bind_ok _ hnegated, bind_ok _ get_eq, bind_ok _ hmembers]
  rfl

/-- A plus sign with a closing parenthesis after it repeats the item before it. -/
theorem readRepeat_plus {e : Expr} (hs : s.tokens.head? = some (.code ')')) :
    readRepeat Modes.none '+' (.plain e :: acc) s =
      .ok (⟨.many .greedy 1 none e, false, true⟩ :: acc, s) := by
  have hgreed : readGreed s = .ok (.greedy, s) := by
    rw [readGreed, bind_ok _ (accept_ne (by simp [hs]))]
    simp only [Bool.false_eq_true, if_false]
    rw [bind_ok _ (accept_ne (by simp [hs]))]
    rfl
  exact bind_ok (fun greed => pure (⟨.many greed 1 none e, false, true⟩ :: acc)) hgreed

/-- What stands inside the group is read up to the parenthesis that closes it. -/
theorem readAlternatives_word
    (hs : s.tokens = .code '[' :: .escape 'w' :: .code ']' :: .code '+' :: .code ')' :: rest) :
    readAlternatives (fuel + 5) false Modes.none s =
      .ok (.many .greedy 1 none (.one Expr.wordTest), s.advance 5 (.code ')' :: rest)) := by
  have hset : readItem Modes.none [] (.code '[')
      (s.advance 1 (.escape 'w' :: .code ']' :: .code '+' :: .code ')' :: rest)) =
      .ok ([.plain (.one Expr.wordTest)], s.advance 4 (.code '+' :: .code ')' :: rest)) :=
    bind_ok (fun item => pure [item]) (readSet_word rfl (by simp [Clear]))
  have hplus : readItem Modes.none [.plain (.one Expr.wordTest)] (.code '+')
      (s.advance 5 (.code ')' :: rest)) =
      .ok ([⟨.many .greedy 1 none (.one Expr.wordTest), false, true⟩],
        s.advance 5 (.code ')' :: rest)) := readRepeat_plus rfl
  have hitems : readItems (fuel + 3) false Modes.none [] s =
      .ok ([⟨.many .greedy 1 none (.one Expr.wordTest), false, true⟩],
        s.advance 5 (.code ')' :: rest)) := by
    rw [readItems_item hs (by simp [Clear]) (by simp) (by simp) (by simp) hset,
      readItems_item rfl (by simp [Clear]) (by simp) (by simp) (by simp) hplus]
    rw [readItems, bind_ok _ (peek_eq rfl)]
    rfl
  have hbar : accept '|' (s.advance 5 (.code ')' :: rest)) =
      .ok (false, s.advance 5 (.code ')' :: rest)) := accept_ne (by simp [ReaderState.advance])
  have hbranches : readBranches (fuel + 4) false false Modes.none s =
      .ok ([.many .greedy 1 none (.one Expr.wordTest)], s.advance 5 (.code ')' :: rest)) := by
    rw [readBranches, bind_ok _ hitems, bind_ok _ hbar]
    rfl
  rw [readAlternatives, bind_ok _ hbranches]
  rfl

theorem width_word (groups : Nat → Width) :
    (Expr.many .greedy 1 none (.one Expr.wordTest)).width groups = Width.word := by
  simp [Expr.width, Width.times, Width.clamp, Width.word, unbounded]

/-- The tokens of a marker are read as a word group, the next one by number. -/
theorem readItems_marker (hs : s.tokens = markerTokens ++ rest) (hrest : Clear rest) :
    readItems (fuel + 7) first Modes.none acc s =
      readItems (fuel + 6) first Modes.none
        (.plain (Expr.wordGroup (s.groups.length + 1)) :: acc)
        ((s.advance wordGroup.length rest).withGroup Width.word) := by
  let inside := .code '[' :: .escape 'w' :: .code ']' :: .code '+' :: .code ')' :: rest
  let opened : ReaderState := { s.advance 1 inside with groups := s.groups ++ [none] }
  have hopen : openGroup none (s.advance 1 inside) = .ok (s.groups.length + 1, opened) := rfl
  have hbody : readAlternatives (fuel + 5) false Modes.none opened =
      .ok (.many .greedy 1 none (.one Expr.wordTest), opened.advance 5 (.code ')' :: rest)) :=
    readAlternatives_word rfl
  have hclose : close s.place (opened.advance 5 (.code ')' :: rest)) =
      .ok ((), opened.advance 6 rest) := by
    rw [close, bind_ok _ (accept_self rfl hrest)]
    rfl
  have hwidth : closeGroup (s.groups.length + 1) (.many .greedy 1 none (.one Expr.wordTest))
      (opened.advance 6 rest) =
      .ok ((), (s.advance wordGroup.length rest).withGroup Width.word) := by
    have hset : (s.groups ++ [none]).set s.groups.length (some Width.word) =
        s.groups ++ [some Width.word] := by simp
    rw [closeGroup_eq, width_word]
    simp only [Nat.add_sub_cancel, opened, ReaderState.advance, hset]
    rfl
  have hgroup : readGroup (fuel + 6) s.place Modes.none (.capture none) (s.advance 1 inside) =
      .ok (.plain (Expr.wordGroup (s.groups.length + 1)),
        (s.advance wordGroup.length rest).withGroup Width.word) := by
    rw [readGroup, bind_ok _ hopen, bind_ok _ hbody, bind_ok _ hclose, bind_ok _ hwidth]
    rfl
  have hopening : readOpening Modes.none (s.advance 1 inside) =
      .ok (.capture none, s.advance 1 inside) := by
    rw [readOpening, bind_ok _ (accept_ne (by simp [ReaderState.advance, inside]))]
    rfl
  have hplace : here (s.advance 1 inside) = .ok (s.place + 1, s.advance 1 inside) := rfl
  have hs' : s.tokens = .code '(' :: inside := hs
  conv => lhs; unfold readItems
  rw [bind_ok _ (peek_eq hs')]
  simp only [Token.code.injEq, Code.ofChar_inj, Char.reduceEq, or_self, if_false]
  rw [bind_ok _ (next?_eq hs' (by simp [Clear, inside]))]
  simp only [Modes.verbose_none, Bool.false_and, Bool.false_eq_true, if_false, if_true]
  rw [Token.width, bind_ok _ hplace, bind_ok _ hopening]
  exact bind_ok _ hgroup

/-! ### The whole text -/

/-- The expressions of a template, with its groups numbered from `number + 1` on. -/
def exprs (number : Nat) : Text → List Expr
  | [] => []
  | [c] => [Expr.literal c]
  | c :: d :: rest =>
    if c = markerOpen ∧ d = markerClose then
      Expr.wordGroup (number + 1) :: exprs (number + 1) rest
    else Expr.literal c :: exprs number (d :: rest)

@[simp] theorem exprs_nil (number : Nat) : exprs number [] = [] := rfl

@[simp] theorem exprs_marker (number : Nat) (t : Text) :
    exprs number (markerOpen :: markerClose :: t) =
      Expr.wordGroup (number + 1) :: exprs (number + 1) t := by
  rw [exprs, if_pos ⟨rfl, rfl⟩]

theorem exprs_literal (number : Nat) {c : Code} {t : Text} (h : ¬OpensMarker c t) :
    exprs number (c :: t) = Expr.literal c :: exprs number t := by
  cases t with
  | nil => rfl
  | cons d t => rw [exprs, if_neg (by simpa [OpensMarker] using h)]

theorem clear_escape (t : Text) : Clear (Token.ofText (escape t)) := by
  induction t using marker_induction with
  | nil => simp [Clear, escape, escapeWith, Token.ofText, Token.ofTextAfter]
  | marker t _ => rw [escape, escapeWith_marker, ofText_wordGroup]; simp [Clear, markerTokens]
  | literal c t h _ =>
      rw [escape, escapeWith_literal _ h, ofText_escapeCode]
      exact clear_codeTokens c _

/-- The state of a reader after the text of a template: at its end, with a group per marker. -/
def readThrough (s : ReaderState) (t : Text) : ReaderState :=
  { s with
    place := s.place + (escape t).length
    tokens := []
    groups := s.groups ++ List.replicate (markerCount t) (some Width.word) }

/-- The pattern text of a template is read as its expressions, to its end. -/
theorem readItems_escape (t : Text) (s : ReaderState) (fuel : Nat) (first : Bool)
    (acc : List Item) (hs : s.tokens = Token.ofText (escape t))
    (hfuel : (escape t).length < fuel) :
    readItems fuel first Modes.none acc s =
      .ok (((exprs s.groups.length t).map Item.plain).reverse ++ acc, readThrough s t) := by
  induction t using marker_induction generalizing s fuel acc with
  | nil =>
      obtain ⟨fuel, rfl⟩ : ∃ n, fuel = n + 1 := Nat.exists_eq_add_one.mpr (by omega)
      have htokens : s.tokens = [] := hs
      have hpeek : peek s = .ok (none, s) := by rw [peek, htokens]; rfl
      have hstay : readThrough s [] = s := by
        cases s
        simp_all [readThrough, escape, escapeWith]
      rw [readItems, bind_ok _ hpeek, hstay]
      rfl
  | marker t ih =>
      rw [escape, escapeWith_marker, List.length_append] at hfuel
      rw [escape, escapeWith_marker, ofText_wordGroup] at hs
      have hlen : wordGroup.length = 7 := rfl
      obtain ⟨fuel, rfl⟩ : ∃ n, fuel = n + 7 := ⟨fuel - 7, by omega⟩
      rw [readItems_marker hs (clear_escape t), ih _ _ _ rfl (by rw [escape]; omega)]
      simp [ReaderState.withGroup, ReaderState.advance, readThrough, escape,
        List.replicate_succ, Nat.add_assoc]
  | literal c t h ih =>
      have hlen : 1 ≤ (escapeCode c).length := by
        unfold escapeCode
        split_ifs <;> simp
      rw [escape, escapeWith_literal _ h, List.length_append] at hfuel
      rw [escape, escapeWith_literal _ h, ofText_escapeCode] at hs
      obtain ⟨fuel, rfl⟩ : ∃ n, fuel = n + 1 := ⟨fuel - 1, by omega⟩
      rw [readItems_literal hs (clear_escape t), ih _ _ _ rfl (by rw [escape]; omega)]
      simp [ReaderState.advance, readThrough, escape, escapeWith_literal _ h, exprs_literal _ h,
        markerCount_literal h, Nat.add_assoc]

/-- The pattern of a template: its expressions one after the other, with a group per marker. -/
def pattern (t : Text) : Pattern := ⟨escape t, Expr.ofList (exprs 0 t), markerCount t⟩

/-- Reading the pattern text of a template gives the pattern of the template. -/
theorem read_escape (t : Text) : Pattern.read (escape t) = .ok (pattern t) := by
  let start := ReaderState.start (escape t)
  have hclear : checkNext start = .ok () := checkNext_of_clear (clear_escape t)
  have hitems : readItems (8 * (escape t).length + 6) true Modes.none [] start =
      .ok (((exprs 0 t).map Item.plain).reverse ++ [], readThrough start t) :=
    readItems_escape t start _ true [] rfl (by omega)
  have hbranch : Item.toExpr (((exprs 0 t).map Item.plain).reverse ++ []) =
      Expr.ofList (exprs 0 t) := by
    simp [Item.toExpr, Item.plain, Function.comp_def]
  have hbar : accept '|' (readThrough start t) = .ok (false, readThrough start t) :=
    accept_ne (by simp [readThrough])
  have hbranches : readBranches (8 * (escape t).length + 7) true true Modes.none start =
      .ok ([Expr.ofList (exprs 0 t)], readThrough start t) := by
    rw [readBranches, bind_ok _ hitems, hbranch, bind_ok _ hbar]
    rfl
  have hread : readAlternatives (readFuel (escape t)) true Modes.none start =
      .ok (Expr.ofList (exprs 0 t), readThrough start t) := by
    rw [readFuel, readAlternatives, bind_ok _ hbranches]
    rfl
  have hcount : (readThrough start t).groups.length = markerCount t := by
    simp [readThrough, start, ReaderState.start]
  calc Pattern.read (escape t)
      = (checkNext start >>= fun _ =>
          readAlternatives (readFuel (escape t)) true Modes.none start >>= fun p =>
          checkWhole p.1 p.2 >>= fun _ => pure ⟨escape t, p.1, p.2.groups.length⟩) := rfl
    _ = .ok ⟨escape t, Expr.ofList (exprs 0 t), (readThrough start t).groups.length⟩ := by
        -- Neither modes nor conditions are left to check at the end.
        rw [hclear, hread]
        rfl
    _ = .ok (pattern t) := by rw [hcount, pattern]

/-- Every template compiles, to its pattern. -/
theorem compile_eq (t : Text) : compile t = .ok (pattern t) := by
  rw [compile, compileWith]
  simp only [show escapeWith wordGroup t = escape t from rfl, read_escape]

end Template

end LogHarvest
