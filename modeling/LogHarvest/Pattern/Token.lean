import LogHarvest.Text.Code

/-!
# Tokens of a pattern

A pattern is read in units of one code, or of a backslash and the code after it. A backslash
with nothing after it is no token: reading stops as soon as the token before it has been taken.
-/

namespace LogHarvest.Pattern

inductive Token where
  | code (c : Code)
  | escape (c : Code)
  | dangling
deriving DecidableEq

namespace Token

/-- The codes that make up a token. -/
def text : Token → Text
  | .code c => [c]
  | .escape c => [('\\' : Code), c]
  | .dangling => [('\\' : Code)]

/-- The number of codes that make up a token. -/
def width : Token → Nat
  | .code _ => 1
  | .escape _ => 2
  | .dangling => 1

/-- The tokens of a text, given whether a backslash has just been read. -/
def ofTextAfter : (escaped : Bool) → Text → List Token
  | false, [] => []
  | true, [] => [.dangling]
  | true, c :: rest => .escape c :: ofTextAfter false rest
  | false, c :: rest =>
    if c = '\\' then ofTextAfter true rest else .code c :: ofTextAfter false rest

/-- The tokens of a text. -/
def ofText (t : Text) : List Token := ofTextAfter false t

end Token

end LogHarvest.Pattern
