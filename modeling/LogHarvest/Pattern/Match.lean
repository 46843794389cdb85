import LogHarvest.Pattern.CharTest

/-!
# Matching by backtracking

An expression is matched at a place of a text, and what follows it is handed over as a
function: the first way of matching the expression that lets the rest match is taken, in the
order in which a reader of the pattern would try them. Groups that took part in a failed way
are as they were before it.
-/

namespace LogHarvest.Pattern

/-- A place in a text. The codes before it are nearest first. -/
structure Cursor where
  offset : Nat
  before : Text
  after : Text

/-- Where a group last began and last ended. While it is open again the end lies before the
beginning. -/
structure Mark where
  first : Option Nat
  last : Option Nat

/-- The marks of the groups, from the first on. -/
abbrev Captures := List Mark

abbrev Outcome := Option (Cursor × Captures)

/-- What is still to be matched after an expression. -/
abbrev Rest := Cursor → Captures → Outcome

/-- A way of matching that goes on with the rest. -/
abbrev Step := Cursor → Captures → Rest → Outcome

namespace Cursor

def start (t : Text) : Cursor := ⟨0, [], t⟩

/-- The place after the next code, when that passes a test. -/
def advance? (cur : Cursor) (test : Code → Bool) : Option Cursor :=
  match cur.after with
  | [] => none
  | c :: rest => if test c then some ⟨cur.offset + 1, c :: cur.before, rest⟩ else none

/-- The place a number of codes back. -/
def retreat? : (count : Nat) → Cursor → Option Cursor
  | 0, cur => some cur
  | count + 1, cur =>
    match cur.before with
    | [] => none
    | c :: rest => retreat? count ⟨cur.offset - 1, rest, c :: cur.after⟩

/-- The whole text. -/
def whole (cur : Cursor) : Text := cur.before.reverse ++ cur.after

end Cursor

namespace Mark

def none : Mark := ⟨Option.none, Option.none⟩

/-- The ends of a group that took part. -/
def bounds? (m : Mark) : Option (Nat × Nat) :=
  match m.first, m.last with
  | some a, some b => if a ≤ b then some (a, b) else Option.none
  | _, _ => Option.none

/-- What a group holds of the text. -/
def text? (m : Mark) (whole : Text) : Option Text :=
  m.bounds?.map fun b => (whole.drop b.1).take (b.2 - b.1)

end Mark

namespace Captures

/-- No group has taken part. -/
def start (count : Nat) : Captures := List.replicate count Mark.none

def mark (caps : Captures) (number : Nat) : Mark := caps.getD (number - 1) Mark.none

/-- Marks where a group begins. -/
def enter (caps : Captures) (number offset : Nat) : Captures :=
  List.modify caps (number - 1) fun m => { m with first := some offset }

/-- Marks where a group ends. -/
def leave (caps : Captures) (number offset : Nat) : Captures :=
  List.modify caps (number - 1) fun m => { m with last := some offset }

end Captures

namespace Anchor

/-- Whether there is a word code on exactly one side. -/
def isEdge (ascii : Bool) (cur : Cursor) : Bool :=
  let word (t : Text) : Bool :=
    match t with
    | [] => false
    | c :: _ => Category.word.holds ascii c
  word cur.before != word cur.after

/-- Whether a place satisfies a condition. An empty text has neither a word edge nor a place
that is none. -/
def holds (cur : Cursor) : Anchor → Bool
  | .textStart => cur.before.isEmpty
  | .lineStart => cur.before.isEmpty || cur.before.head? = some ('\n' : Code)
  | .textEnd => cur.after.isEmpty
  | .lineEnd => cur.after.isEmpty || cur.after.head? = some ('\n' : Code)
  | .lastLineEnd => cur.after.isEmpty || cur.after = [('\n' : Code)]
  | .wordEdge ascii => isEdge ascii cur
  | .noWordEdge ascii => !(cur.before.isEmpty && cur.after.isEmpty) && !isEdge ascii cur

end Anchor

namespace Step

/-- A step a fixed number of times. -/
def times (step : Step) : (count : Nat) → Step
  | 0, cur, caps, rest => rest cur caps
  | count + 1, cur, caps, rest => step cur caps fun cur caps => times step count cur caps rest

/-- A step as often as it can, then the rest; less often when the rest does not match. A step
from the place where the one before it began is not tried, so a step that consumes nothing is
taken once. -/
def greedily (step : Step) : (fuel : Nat) → (previous : Option Nat) → Step
  | 0, _, cur, caps, rest => rest cur caps
  | fuel + 1, previous, cur, caps, rest =>
    if previous = some cur.offset then rest cur caps
    else
      match step cur caps fun cur' caps' =>
          greedily step fuel (some cur.offset) cur' caps' rest with
      | some done => some done
      | none => rest cur caps

/-- The rest, or else a step and so on. -/
def lazily (step : Step) : (fuel : Nat) → (previous : Option Nat) → Step
  | 0, _, cur, caps, rest => rest cur caps
  | fuel + 1, previous, cur, caps, rest =>
    match rest cur caps with
    | some done => some done
    | none =>
      if previous = some cur.offset then none
      else step cur caps fun cur' caps' => lazily step fuel (some cur.offset) cur' caps' rest

/-- The first way alone, whatever the rest says of it. -/
def committed (step : Step) : Step := fun cur caps rest =>
  match step cur caps fun cur caps => some (cur, caps) with
  | some (cur, caps) => rest cur caps
  | none => none

/-- A step as often as it can, each time its first way alone. -/
def possessively (step : Step) : (fuel : Nat) → Step
  | 0, cur, caps, rest => rest cur caps
  | fuel + 1, cur, caps, rest =>
    match step cur caps fun cur caps => some (cur, caps) with
    | some (cur', caps') =>
      if cur'.offset = cur.offset then rest cur' caps'
      else possessively step fuel cur' caps' rest
    | none => rest cur caps

/-- A step repeated between `least` and `most` times. Every step but one consumes a code, which
bounds the number of repetitions when there is no other bound. -/
def repeated (step : Step) (greed : Greed) (least : Nat) (most : Option Nat) : Step :=
  fun cur caps rest =>
    let further (cur : Cursor) : Nat :=
      match most with
      | some most => min (most - least) (cur.after.length + 1)
      | none => cur.after.length + 1
    match greed with
    | .greedy =>
      times step least cur caps fun cur caps => greedily step (further cur) none cur caps rest
    | .lazily =>
      times step least cur caps fun cur caps => lazily step (further cur) none cur caps rest
    | .possessive =>
      committed (fun cur caps rest => times (committed step) least cur caps fun cur caps =>
        possessively step (further cur) cur caps rest) cur caps rest

/-- The codes of a text, each by the folding rule. -/
def again (fold : Fold) : Text → Step
  | [], cur, caps, rest => rest cur caps
  | a :: text, cur, caps, rest =>
    match cur.advance? fun c => fold.lower c = fold.lower a with
    | some cur => again fold text cur caps rest
    | none => none

end Step

namespace Expr

/-- Matches an expression and then the rest. -/
def run : Expr → Step
  | .empty, cur, caps, rest => rest cur caps
  | .fail, _, _, _ => none
  | .one test, cur, caps, rest =>
    match cur.advance? test.holds with
    | some cur => rest cur caps
    | none => none
  | .anchor a, cur, caps, rest => if a.holds cur then rest cur caps else none
  | .seq first second, cur, caps, rest =>
    first.run cur caps fun cur caps => second.run cur caps rest
  | .alt first second, cur, caps, rest =>
    match first.run cur caps rest with
    | some done => some done
    | none => second.run cur caps rest
  | .group number body, cur, caps, rest =>
    body.run cur (caps.enter number cur.offset) fun cur caps =>
      rest cur (caps.leave number cur.offset)
  | .many greed least most body, cur, caps, rest =>
    Step.repeated body.run greed least most cur caps rest
  | .atomic body, cur, caps, rest => Step.committed body.run cur caps rest
  | .ahead negated body, cur, caps, rest =>
    match body.run cur caps fun cur caps => some (cur, caps) with
    | some (_, caps') => if negated then none else rest cur caps'
    | none => if negated then rest cur caps else none
  | .behind negated width body, cur, caps, rest =>
    match (Cursor.retreat? width cur).bind fun back =>
        body.run back caps fun cur caps => some (cur, caps) with
    | some (_, caps') => if negated then none else rest cur caps'
    | none => if negated then rest cur caps else none
  | .again fold number, cur, caps, rest =>
    match (caps.mark number).text? cur.whole with
    | some text => Step.again fold text cur caps rest
    | none => none
  | .ifGroup number yes no, cur, caps, rest =>
    if (caps.mark number).bounds?.isSome then yes.run cur caps rest else no.run cur caps rest

/-- The groups of a match of the whole text. -/
def fullMatch? (e : Expr) (groupCount : Nat) (t : Text) : Option (List (Option Text)) :=
  (e.run (Cursor.start t) (Captures.start groupCount) fun cur caps =>
      if cur.after.isEmpty then some (cur, caps) else none).map fun done =>
    done.2.map (Mark.text? · t)

end Expr

end LogHarvest.Pattern
