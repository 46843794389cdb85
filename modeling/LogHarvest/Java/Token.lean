import LogHarvest.Text.Code

/-!
# Tokens of Java source

A token has its text, the place where it starts and the row it stands in. A string literal in
which expressions are embedded is cut at them: a head before the first, parts between two, and
a tail after the last.
-/

namespace LogHarvest.Java

inductive TokenKind where
  | word
  | number
  | character
  | symbol
  | string
  | stringHead
  | stringPart
  | stringTail
deriving DecidableEq

structure Token where
  kind : TokenKind
  text : Text
  start : Nat
  row : Nat
deriving DecidableEq

/-- The place after a token. -/
def Token.stop (t : Token) : Nat := t.start + t.text.length

/-- Where a part of a source begins, where it ends, and the row it begins in. -/
structure Span where
  start : Nat
  stop : Nat
  row : Nat
deriving DecidableEq

/-- The text of a part of a source. -/
def Span.text (s : Span) (source : Text) : Text := (source.drop s.start).take (s.stop - s.start)

end LogHarvest.Java
