import LogHarvest.Proofs.Pattern.Ways

/-!
# Literal codes and word groups

The patterns of templates are rows of literal codes and groups of one word. A literal has one
way at most. A word group has one way for each non-empty stretch of word codes at its place,
the longest first; `runs` lists these stretches without any matcher.
-/

namespace LogHarvest.Pattern

/-- The place after some text. -/
def Cursor.past (cur : Cursor) (t : Text) : Cursor :=
  ⟨cur.offset + t.length, t.reverse ++ cur.before, cur.after.drop t.length⟩

@[simp] theorem Cursor.past_nil (cur : Cursor) : cur.past [] = cur := rfl

/-- A step over some text and then over more is a step over both. -/
theorem Cursor.past_past (cur : Cursor) (s t : Text) : (cur.past s).past t = cur.past (s ++ t) := by
  simp only [past, List.length_append, List.drop_drop, List.reverse_append, List.append_assoc,
    Nat.add_assoc]

theorem Cursor.after_past_of_append {cur : Cursor} {t rest : Text} (h : cur.after = t ++ rest) :
    (cur.past t).after = rest := by
  rw [past, h, List.drop_left]

theorem Cursor.after_past_singleton {cur : Cursor} {c : Code} {rest : Text}
    (h : cur.after = c :: rest) : (cur.past [c]).after = rest :=
  after_past_of_append (show cur.after = [c] ++ rest from h)

/-- The stretches of codes that pass a test at the front of a text, longest first; the empty one
comes last. -/
def runs (test : Code → Bool) : Text → List Text
  | [] => [[]]
  | c :: rest => if test c then (runs test rest).map (c :: ·) ++ [[]] else [[]]

theorem mem_runs {test : Code → Bool} {t run : Text} :
    run ∈ runs test t ↔ run <+: t ∧ ∀ c ∈ run, test c := by
  induction t generalizing run with
  | nil => cases run <;> simp [runs]
  | cons c rest ih =>
      cases run with
      | nil => by_cases hc : test c <;> simp [runs, hc]
      | cons d run =>
          rw [List.cons_prefix_cons, List.forall_mem_cons]
          by_cases hc : test c
          · simp only [runs, hc, if_true, List.mem_append, List.mem_map, List.cons.injEq,
              List.mem_singleton, reduceCtorEq, or_false]
            constructor
            · rintro ⟨r, hr, rfl, rfl⟩
              obtain ⟨hstart, hcodes⟩ := ih.1 hr
              exact ⟨⟨rfl, hstart⟩, hc, hcodes⟩
            · rintro ⟨⟨rfl, hstart⟩, -, hcodes⟩
              exact ⟨run, ih.2 ⟨hstart, hcodes⟩, rfl, rfl⟩
          · simp only [runs, hc, Bool.false_eq_true, if_false, List.mem_singleton, reduceCtorEq,
              false_iff]
            rintro ⟨⟨rfl, -⟩, hd, -⟩
            exact hc hd

/-- The longest stretch comes first. -/
theorem runs_pairwise (test : Code → Bool) (t : Text) :
    (runs test t).Pairwise fun longer shorter => shorter.length < longer.length := by
  induction t with
  | nil => simp [runs]
  | cons c rest ih =>
      by_cases hc : test c
      · rw [runs, if_pos hc, List.pairwise_append, List.pairwise_map]
        refine ⟨ih.imp fun h => ?_, by simp, ?_⟩
        · simpa using h
        · intro run hrun last hlast
          obtain ⟨shorter, -, rfl⟩ := List.mem_map.1 hrun
          obtain rfl := List.mem_singleton.1 hlast
          simp
      · simp [runs, hc]

namespace Expr

/-- A test has one way where the next code passes it. -/
theorem ways_one_cons {test : CharTest} {cur : Cursor} {c : Code} {rest : Text} (caps : Captures)
    (h : cur.after = c :: rest) :
    (Expr.one test).ways cur caps = if test.holds c then [(cur.past [c], caps)] else [] := by
  rw [ways, Cursor.advance?, h]
  by_cases hc : test.holds c
  · simp [hc, Cursor.past, h]
  · simp [hc]

theorem ways_one_nil {test : CharTest} {cur : Cursor} (caps : Captures) (h : cur.after = []) :
    (Expr.one test).ways cur caps = [] := by
  rw [ways, Cursor.advance?, h]

/-- Repeating a test goes through the stretches of codes that pass it. The place of the round
before lies behind, so no round is cut off for standing still. -/
theorem greedily_one (test : CharTest) (fuel : Nat) (previous : Option Nat) (cur : Cursor)
    (caps : Captures) (hfuel : cur.after.length ≤ fuel) (hprev : ∀ n ∈ previous, n < cur.offset) :
    (Expr.one test).ways.greedily fuel previous cur caps =
      (runs test.holds cur.after).map fun run => (cur.past run, caps) := by
  induction fuel generalizing previous cur with
  | zero =>
      rw [List.length_eq_zero_iff.mp (Nat.le_zero.mp hfuel)]
      rfl
  | succ fuel ih =>
      have hmoved : previous ≠ some cur.offset := fun h => Nat.lt_irrefl _ (hprev _ h)
      rw [Ways.greedily, if_neg hmoved, Ways.andThen]
      cases h : cur.after with
      | nil => rw [ways_one_nil caps h]; rfl
      | cons c rest =>
          rw [ways_one_cons caps h, runs]
          by_cases hc : test.holds c
          · have hafter : (cur.past [c]).after = rest := Cursor.after_past_singleton h
            have hlen : rest.length ≤ fuel := by
              rw [h, List.length_cons] at hfuel
              omega
            rw [if_pos hc, if_pos hc, List.flatMap_cons, List.flatMap_nil, List.append_nil,
              ih (some cur.offset) (cur.past [c]) (by rw [hafter]; exact hlen)
                (by rintro n ⟨⟩; exact Nat.lt_succ_self _),
              hafter, List.map_append, List.map_map]
            congr 1
            apply List.map_congr_left
            intro run _
            simp only [Function.comp, Cursor.past_past, List.singleton_append]
          · rw [if_neg hc, if_neg hc]
            rfl

/-- A test at least once, as often as possible. -/
theorem ways_many_one (test : CharTest) (cur : Cursor) (caps : Captures) :
    (Expr.many .greedy 1 none (.one test)).ways cur caps =
      ((runs test.holds cur.after).filter (!·.isEmpty)).map fun run => (cur.past run, caps) := by
  change ((Expr.one test).ways.times 1).andThen
    (fun cur => (Expr.one test).ways.greedily (cur.after.length + 1) none cur) cur caps = _
  simp only [Ways.andThen, Ways.times, Ways.stay, List.flatMap_singleton']
  cases h : cur.after with
  | nil => rw [ways_one_nil caps h]; rfl
  | cons c rest =>
      rw [ways_one_cons caps h, runs]
      by_cases hc : test.holds c
      · have hafter : (cur.past [c]).after = rest := Cursor.after_past_singleton h
        simp only [hc, if_true, List.flatMap_cons, List.flatMap_nil, List.append_nil]
        have hfilter : ((runs test.holds rest).map (c :: ·) ++ [[]]).filter (!·.isEmpty) =
            (runs test.holds rest).map (c :: ·) := by
          simp [List.filter_append]
        rw [greedily_one test _ none _ caps (by omega) (by simp), hafter, hfilter, List.map_map]
        simp only [Function.comp_def, Cursor.past_past, List.singleton_append]
      · simp [hc]

/-- The test that literal text is matched by. -/
def literal (c : Code) : Expr := .one (.literal .exact false c)

/-- The test that a marker stands for. -/
def wordTest : CharTest := .set .exact false [.category ⟨.word, false, false⟩]

/-- The group that a marker stands for. -/
def wordGroup (number : Nat) : Expr := .group number (.many .greedy 1 none (.one wordTest))

@[simp] theorem holds_wordTest (c : Code) : wordTest.holds c = c.isWord := by
  simp [wordTest, CharTest.holds, SetItem.holds, ClassTest.holds, Category.holds, Fold.lower]

/-- A literal has one way where its code comes next. -/
theorem ways_literal (c : Code) (cur : Cursor) (caps : Captures) :
    (literal c).ways cur caps = if [c] <+: cur.after then [(cur.past [c], caps)] else [] := by
  cases h : cur.after with
  | nil => simp [literal, ways_one_nil caps h]
  | cons d rest =>
      rw [literal, ways_one_cons caps h]
      by_cases hd : d = c
      · simp [CharTest.holds, Fold.matchesLiteral, hd]
      · simp [CharTest.holds, Fold.matchesLiteral, hd, Ne.symm hd]

/-- A word group has a way for each word at its place. -/
theorem ways_wordGroup (number : Nat) (cur : Cursor) (caps : Captures) :
    (wordGroup number).ways cur caps =
      ((runs Code.isWord cur.after).filter (!·.isEmpty)).map fun word =>
        (cur.past word,
          (caps.enter number cur.offset).leave number (cur.offset + word.length)) := by
  have htest : wordTest.holds = Code.isWord := funext holds_wordTest
  rw [wordGroup, ways, ways_many_one, List.map_map, htest]
  rfl

end Expr

end LogHarvest.Pattern
