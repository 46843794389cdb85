import LogHarvest.Pattern.Expr

/-!
# Widths

The least and the greatest number of codes that an expression can match. Looking back needs
both to be the same.
-/

namespace LogHarvest.Pattern

/-- Stands for no bound; no repetition count reaches it. -/
def unbounded : Nat := 4294967295

/-- The least and the greatest number of codes. -/
structure Width where
  least : Nat
  most : Nat
deriving DecidableEq

namespace Width

def zero : Width := ⟨0, 0⟩

/-- Both numbers kept within what can be counted. -/
def clamp (w : Width) : Width := ⟨min w.least (unbounded - 1), min w.most unbounded⟩

def add (a b : Width) : Width := clamp ⟨a.least + b.least, a.most + b.most⟩

def either (a b : Width) : Width := ⟨min a.least b.least, max a.most b.most⟩

def times (w : Width) (least : Nat) (most : Option Nat) : Width :=
  clamp ⟨w.least * least, w.most * most.getD unbounded⟩

end Width

/-- The width of an expression, given those of the groups before it. -/
def Expr.width (groups : Nat → Width) : Expr → Width
  | .empty | .fail | .anchor _ | .ahead _ _ | .behind _ _ _ => Width.zero
  | .one _ => ⟨1, 1⟩
  | .seq first second => (first.width groups).add (second.width groups)
  | .alt first second => (first.width groups).either (second.width groups)
  | .group _ body | .atomic body => body.width groups
  | .many _ least most body => (body.width groups).times least most
  | .again _ number => groups number
  | .ifGroup _ yes no => (yes.width groups).either (no.width groups)

end LogHarvest.Pattern
