import LogHarvest.Text.Code

/-!
# Style sequences

A style sequence tells a terminal how to show the text after it: the escape code and an opening
bracket, then numbers, semicolons and question marks, and a letter at the end. Text that does not go
to a terminal is printed without them.
-/

namespace LogHarvest

namespace Code

/-- The code that a style sequence starts with. -/
def escape : Code := ⟨27⟩

/-- May stand in a style sequence before its letter. -/
def isStyleParameter (c : Code) : Bool := c = ';' || c = '?' || c.isAsciiDigit

end Code

namespace Text

/-- The number of codes up to the letter that ends a style sequence, if parameters alone come
before it. -/
def styleEnd? : Text → Option Nat
  | [] => none
  | c :: rest =>
    if c.isAsciiLetter then some 1
    else if c.isStyleParameter then (styleEnd? rest).map (· + 1)
    else none

/-- The number of codes of a style sequence that come after its first. -/
def styleLength? : Text → Option Nat
  | [] => none
  | c :: rest => if c = '[' then (styleEnd? rest).map (· + 1) else none

/-- The text without its style sequences, given how many of its codes belong to one that has
begun already. -/
def unstyledAfter : (skipped : Nat) → Text → Text
  | _, [] => []
  | skipped + 1, _ :: rest => unstyledAfter skipped rest
  | 0, c :: rest =>
    if c = Code.escape then
      match styleLength? rest with
      | some length => unstyledAfter length rest
      | none => c :: unstyledAfter 0 rest
    else c :: unstyledAfter 0 rest

/-- The text without its style sequences. -/
def unstyled (t : Text) : Text := unstyledAfter 0 t

end Text

end LogHarvest
