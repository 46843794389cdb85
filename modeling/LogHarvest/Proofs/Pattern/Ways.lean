import LogHarvest.Pattern.Basic

/-!
# The ways in which an expression matches

The matcher hands the rest of a pattern over as a function and backtracks by calling it again.
Here every expression gets the plain list of its ways instead, each with the place after it and
the marks of the groups, in the order in which backtracking would come to them. Running an
expression is then the same as offering the rest one way after another, so what matches, and
with which groups, can be read off a list.
-/

namespace LogHarvest.Pattern

/-- One way of matching: the place after it and the marks of the groups. -/
abbrev Way := Cursor × Captures

/-- The ways of matching at a place, in the order in which they are tried. -/
abbrev Ways := Cursor → Captures → List Way

namespace Ways

/-- Nothing to match: one way, which stays. -/
def stay : Ways := fun cur caps => [(cur, caps)]

/-- For each way of the first, all ways of the second. -/
def andThen (first second : Ways) : Ways := fun cur caps =>
  (first cur caps).flatMap fun w => second w.1 w.2

def times (ways : Ways) : (count : Nat) → Ways
  | 0 => stay
  | count + 1 => ways.andThen (times ways count)

/-- As often as possible, and less often after that. -/
def greedily (ways : Ways) : (fuel : Nat) → (previous : Option Nat) → Ways
  | 0, _, cur, caps => [(cur, caps)]
  | fuel + 1, previous, cur, caps =>
    if previous = some cur.offset then [(cur, caps)]
    else ways.andThen (greedily ways fuel (some cur.offset)) cur caps ++ [(cur, caps)]

/-- As seldom as possible, and more often after that. -/
def lazily (ways : Ways) : (fuel : Nat) → (previous : Option Nat) → Ways
  | 0, _, cur, caps => [(cur, caps)]
  | fuel + 1, previous, cur, caps =>
    (cur, caps) ::
      if previous = some cur.offset then []
      else ways.andThen (lazily ways fuel (some cur.offset)) cur caps

/-- The first way alone. -/
def committed (ways : Ways) : Ways := fun cur caps => (ways cur caps).head?.toList

def possessively (ways : Ways) : (fuel : Nat) → Ways
  | 0, cur, caps => [(cur, caps)]
  | fuel + 1, cur, caps =>
    match (ways cur caps).head? with
    | some w => if w.1.offset = cur.offset then [w] else possessively ways fuel w.1 w.2
    | none => [(cur, caps)]

def repeated (ways : Ways) (greed : Greed) (least : Nat) (most : Option Nat) : Ways :=
  let further (cur : Cursor) : Nat :=
    match most with
    | some most => min (most - least) (cur.after.length + 1)
    | none => cur.after.length + 1
  match greed with
  | .greedy => (ways.times least).andThen fun cur caps => ways.greedily (further cur) none cur caps
  | .lazily => (ways.times least).andThen fun cur caps => ways.lazily (further cur) none cur caps
  | .possessive =>
    committed ((ways.committed.times least).andThen fun cur caps =>
      ways.possessively (further cur) cur caps)

def again (fold : Fold) : Text → Ways
  | [], cur, caps => [(cur, caps)]
  | a :: text, cur, caps =>
    match cur.advance? fun c => fold.lower c = fold.lower a with
    | some cur => again fold text cur caps
    | none => []

end Ways

namespace Expr

/-- The ways in which an expression matches. -/
def ways : Expr → Ways
  | .empty, cur, caps => [(cur, caps)]
  | .fail, _, _ => []
  | .one test, cur, caps =>
    match cur.advance? test.holds with
    | some cur => [(cur, caps)]
    | none => []
  | .anchor a, cur, caps => if a.holds cur then [(cur, caps)] else []
  | .seq first second, cur, caps => first.ways.andThen second.ways cur caps
  | .alt first second, cur, caps => first.ways cur caps ++ second.ways cur caps
  | .group number body, cur, caps =>
    (body.ways cur (caps.enter number cur.offset)).map fun w =>
      (w.1, w.2.leave number w.1.offset)
  | .many greed least most body, cur, caps => body.ways.repeated greed least most cur caps
  | .atomic body, cur, caps => body.ways.committed cur caps
  | .ahead negated body, cur, caps =>
    match (body.ways cur caps).head? with
    | some w => if negated then [] else [(cur, w.2)]
    | none => if negated then [(cur, caps)] else []
  | .behind negated width body, cur, caps =>
    match (Cursor.retreat? width cur).bind fun back => (body.ways back caps).head? with
    | some w => if negated then [] else [(cur, w.2)]
    | none => if negated then [(cur, caps)] else []
  | .again fold number, cur, caps =>
    match (caps.mark number).text? cur.whole with
    | some text => Ways.again fold text cur caps
    | none => []
  | .ifGroup number yes no, cur, caps =>
    if (caps.mark number).bounds?.isSome then yes.ways cur caps else no.ways cur caps

end Expr

/-- Offers the rest one way after another until it takes one. -/
def offer (ws : List Way) (rest : Rest) : Outcome := ws.findSome? fun w => rest w.1 w.2

@[simp] theorem offer_nil (rest : Rest) : offer [] rest = none := rfl

theorem offer_cons (w : Way) (ws : List Way) (rest : Rest) :
    offer (w :: ws) rest = (rest w.1 w.2).or (offer ws rest) := by
  simp only [offer, List.findSome?_cons]
  cases rest w.1 w.2 <;> rfl

@[simp] theorem offer_singleton (w : Way) (rest : Rest) : offer [w] rest = rest w.1 w.2 := by
  rw [offer_cons, offer_nil, Option.or_none]

@[simp] theorem offer_append (ws vs : List Way) (rest : Rest) :
    offer (ws ++ vs) rest = (offer ws rest).or (offer vs rest) :=
  List.findSome?_append

theorem offer_flatMap (ws : List Way) (f : Way → List Way) (rest : Rest) :
    offer (ws.flatMap f) rest = ws.findSome? fun w => offer (f w) rest := by
  induction ws with
  | nil => rfl
  | cons w ws ih =>
      rw [List.flatMap_cons, offer_append, ih, List.findSome?_cons]
      cases offer (f w) rest <;> rfl

/-- The rest that takes the first way it is offered. -/
theorem offer_some (ws : List Way) : (offer ws fun cur caps => some (cur, caps)) = ws.head? := by
  cases ws <;> rfl

namespace Step

/-- A step goes through a list of ways when running it is offering them to the rest. -/
def Tries (step : Step) (ways : Ways) : Prop :=
  ∀ cur caps rest, step cur caps rest = offer (ways cur caps) rest

variable {step : Step} {ways : Ways}

theorem tries_stay : Tries (fun cur caps rest => rest cur caps) Ways.stay := by
  intro cur caps rest
  rw [Ways.stay, offer_singleton]

theorem Tries.andThen {first second : Step} {ways₁ ways₂ : Ways} (h₁ : first.Tries ways₁)
    (h₂ : second.Tries ways₂) :
    Tries (fun cur caps rest => first cur caps fun cur caps => second cur caps rest)
      (ways₁.andThen ways₂) := by
  intro cur caps rest
  change first cur caps (fun cur caps => second cur caps rest) = _
  rw [h₁, Ways.andThen, offer_flatMap, offer]
  congr 1
  funext w
  exact h₂ w.1 w.2 rest

theorem Tries.times (h : step.Tries ways) (count : Nat) :
    Tries (step.times count) (ways.times count) := by
  induction count with
  | zero => exact tries_stay
  | succ count ih => exact h.andThen ih

theorem Tries.greedily (h : step.Tries ways) (fuel : Nat) (previous : Option Nat) :
    Tries (step.greedily fuel previous) (ways.greedily fuel previous) := by
  induction fuel generalizing previous with
  | zero => exact tries_stay
  | succ fuel ih =>
      intro cur caps rest
      have more : step cur caps (fun cur' caps' =>
          step.greedily fuel (some cur.offset) cur' caps' rest) = _ :=
        h.andThen (ih (some cur.offset)) cur caps rest
      rw [Step.greedily, Ways.greedily]
      split
      · rw [offer_singleton]
      · rw [offer_append, offer_singleton, more]
        cases offer _ rest <;> rfl

theorem Tries.lazily (h : step.Tries ways) (fuel : Nat) (previous : Option Nat) :
    Tries (step.lazily fuel previous) (ways.lazily fuel previous) := by
  induction fuel generalizing previous with
  | zero => exact tries_stay
  | succ fuel ih =>
      intro cur caps rest
      have more : step cur caps (fun cur' caps' =>
          step.lazily fuel (some cur.offset) cur' caps' rest) = _ :=
        h.andThen (ih (some cur.offset)) cur caps rest
      rw [Step.lazily, Ways.lazily, offer_cons]
      cases rest cur caps with
      | some done => rfl
      | none =>
          dsimp only
          rw [Option.none_or]
          split
          · rfl
          · exact more

theorem Tries.committed (h : step.Tries ways) : Tries step.committed ways.committed := by
  intro cur caps rest
  rw [Step.committed, Ways.committed, h, offer_some]
  cases (ways cur caps).head? with
  | none => rfl
  | some w => exact (offer_singleton w rest).symm

theorem Tries.possessively (h : step.Tries ways) (fuel : Nat) :
    Tries (step.possessively fuel) (ways.possessively fuel) := by
  induction fuel with
  | zero => exact tries_stay
  | succ fuel ih =>
      intro cur caps rest
      rw [Step.possessively, Ways.possessively, h, offer_some]
      cases (ways cur caps).head? with
      | none => exact (offer_singleton (cur, caps) rest).symm
      | some w =>
          dsimp only
          split
          · rw [offer_singleton]
          · exact ih w.1 w.2 rest

theorem Tries.repeated (h : step.Tries ways) (greed : Greed) (least : Nat) (most : Option Nat) :
    Tries (step.repeated greed least most) (ways.repeated greed least most) := by
  -- The number of further steps depends on the place that the least ones lead to.
  let further (cur : Cursor) : Nat :=
    match most with
    | some most => min (most - least) (cur.after.length + 1)
    | none => cur.after.length + 1
  cases greed with
  | greedy =>
      have more : Tries (fun cur => step.greedily (further cur) none cur)
          (fun cur => ways.greedily (further cur) none cur) :=
        fun cur => h.greedily (further cur) none cur
      exact (h.times least).andThen more
  | lazily =>
      have more : Tries (fun cur => step.lazily (further cur) none cur)
          (fun cur => ways.lazily (further cur) none cur) :=
        fun cur => h.lazily (further cur) none cur
      exact (h.times least).andThen more
  | possessive =>
      have more : Tries (fun cur => step.possessively (further cur) cur)
          (fun cur => ways.possessively (further cur) cur) :=
        fun cur => h.possessively (further cur) cur
      exact ((h.committed.times least).andThen more).committed

theorem tries_again (fold : Fold) (text : Text) :
    Tries (Step.again fold text) (Ways.again fold text) := by
  induction text with
  | nil => exact tries_stay
  | cons a text ih =>
      intro cur caps rest
      rw [Step.again, Ways.again]
      cases cur.advance? fun c => fold.lower c = fold.lower a with
      | none => rfl
      | some next => exact ih next caps rest

end Step

namespace Expr

/-- Running an expression is offering its ways to the rest. -/
theorem run_tries (e : Expr) : Step.Tries e.run e.ways := by
  induction e with
  | empty => exact Step.tries_stay
  | fail => exact fun _ _ _ => rfl
  | one test =>
      intro cur caps rest
      rw [run, ways]
      cases cur.advance? test.holds with
      | none => rfl
      | some next => exact (offer_singleton (next, caps) rest).symm
  | anchor a =>
      intro cur caps rest
      rw [run, ways]
      split
      · rw [offer_singleton]
      · rfl
  | seq first second h₁ h₂ => exact h₁.andThen h₂
  | alt first second h₁ h₂ =>
      intro cur caps rest
      rw [run, ways, offer_append, h₁, h₂]
      cases offer (first.ways cur caps) rest <;> rfl
  | group number body h =>
      intro cur caps rest
      rw [run, ways, h, offer, offer, List.findSome?_map]
      rfl
  | many greed least most body h => exact h.repeated greed least most
  | atomic body h => exact h.committed
  | ahead negated body h =>
      intro cur caps rest
      rw [run, ways, h, offer_some]
      cases (body.ways cur caps).head? <;> cases negated <;> simp
  | behind negated width body h =>
      intro cur caps rest
      have back : (fun back => body.run back caps fun cur caps => some (cur, caps)) =
          fun back => (body.ways back caps).head? := by
        funext back
        rw [h, offer_some]
      rw [run, ways, back]
      cases (Cursor.retreat? width cur).bind fun back => (body.ways back caps).head? <;>
        cases negated <;> simp
  | again fold number =>
      intro cur caps rest
      rw [run, ways]
      cases (caps.mark number).text? cur.whole with
      | none => rfl
      | some text => exact Step.tries_again fold text cur caps rest
  | ifGroup number yes no h₁ h₂ =>
      intro cur caps rest
      rw [run, ways]
      split
      · exact h₁ cur caps rest
      · exact h₂ cur caps rest

/-- A match of the whole text is the first way that ends at its end. -/
theorem fullMatch?_eq_find? (e : Expr) (groupCount : Nat) (t : Text) :
    e.fullMatch? groupCount t =
      ((e.ways (Cursor.start t) (Captures.start groupCount)).find? fun w =>
        w.1.after.isEmpty).map fun w => w.2.map (Mark.text? · t) := by
  rw [fullMatch?, run_tries, offer, ← List.findSome?_guard]
  rfl

/-- In a sequence, each expression goes on from every way of those before it. -/
@[simp] theorem ways_ofList_cons (e : Expr) (es : List Expr) :
    (Expr.ofList (e :: es)).ways = e.ways.andThen (Expr.ofList es).ways := by
  cases es with
  | cons d es => rfl
  | nil =>
      funext cur caps
      simp [Expr.ofList, ways, Ways.andThen]

end Expr

end LogHarvest.Pattern
