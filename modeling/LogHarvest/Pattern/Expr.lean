import LogHarvest.Text.Code

/-!
# Pattern expressions

What a pattern says once it has been read. Modes such as "letters of either case" are resolved
while reading, so every leaf carries the rule it is matched by and an expression means the same
wherever it stands.
-/

namespace LogHarvest.Pattern

/-- Which letters count as equal: only the same ones, ASCII letters of either case, or letters
of either case. -/
inductive Fold where
  | exact
  | ascii
  | unicode
deriving DecidableEq

/-- The named classes of codes. -/
inductive Category where
  | digit
  | blank
  | word
deriving DecidableEq

/-- A class, its complement, and either of them by ASCII rules. -/
structure ClassTest where
  category : Category
  ascii : Bool
  negated : Bool
deriving DecidableEq

/-- A member of a bracketed set. -/
inductive SetItem where
  | code (c : Code)
  | range (lo hi : Code)
  | category (test : ClassTest)
deriving DecidableEq

/-- A test of one code. -/
inductive CharTest where
  | literal (fold : Fold) (negated : Bool) (c : Code)
  | any (lineFeedToo : Bool)
  | set (fold : Fold) (negated : Bool) (items : List SetItem)
deriving DecidableEq

/-- A condition on the place between two codes. -/
inductive Anchor where
  | textStart
  | lineStart
  | textEnd
  | lineEnd
  | lastLineEnd
  | wordEdge (ascii : Bool)
  | noWordEdge (ascii : Bool)
deriving DecidableEq

/-- The order in which the numbers of repetitions are tried; a possessive repetition keeps the
first that works. -/
inductive Greed where
  | greedy
  | lazily
  | possessive
deriving DecidableEq

/-- A pattern expression. Groups are numbered from one. -/
inductive Expr where
  | empty
  | fail
  | one (test : CharTest)
  | anchor (a : Anchor)
  | seq (first second : Expr)
  | alt (first second : Expr)
  | group (number : Nat) (body : Expr)
  | many (greed : Greed) (least : Nat) (most : Option Nat) (body : Expr)
  | atomic (body : Expr)
  | ahead (negated : Bool) (body : Expr)
  | behind (negated : Bool) (width : Nat) (body : Expr)
  | again (fold : Fold) (number : Nat)
  | ifGroup (number : Nat) (yes no : Expr)

namespace Expr

/-- One expression after the other. -/
def ofList : List Expr → Expr
  | [] => .empty
  | [e] => e
  | e :: es => .seq e (ofList es)

/-- The first of the expressions that lets the rest match. -/
def ofAlternatives : List Expr → Expr
  | [] => .fail
  | [e] => e
  | e :: es => .alt e (ofAlternatives es)

end Expr

end LogHarvest.Pattern
