import LogHarvest.Text.Code
import LogHarvest.Text.Table.Digit
import LogHarvest.Text.Table.Identifier
import LogHarvest.Text.Table.Unprintable
import LogHarvest.Text.Table.Word

/-!
# Classes of code points

Word characters, decimal digits, blanks, identifier letters and printable code points. ASCII
is decided by comparison and the rest by table, so facts about delimiters and other ASCII
codes need no table at all.
-/

namespace LogHarvest

namespace Code

/-- A letter or a number of any script. -/
def isAlphanumeric (c : Code) : Bool :=
  if c.isAscii then c.isAsciiLetter || c.isAsciiDigit else Text.Table.word.contains c.val

/-- A letter, a number or the underscore: what a placeholder of a template stands for. -/
def isWord (c : Code) : Bool := c = '_' || c.isAlphanumeric

/-- A decimal digit of any script. -/
def isDigit (c : Code) : Bool :=
  if c.isAscii then c.isAsciiDigit else Text.Table.digit.contains c.val

/-- White space and separators: what trimming removes. -/
def isBlank (c : Code) : Bool :=
  (9 ≤ c.val && c.val ≤ 13) || (28 ≤ c.val && c.val ≤ 32) || c.val == 0x85 || c.val == 0xA0 ||
  c.val == 0x1680 || (0x2000 ≤ c.val && c.val ≤ 0x200A) || c.val == 0x2028 || c.val == 0x2029 ||
  c.val == 0x202F || c.val == 0x205F || c.val == 0x3000

/-- Blanks of the ASCII rules: the six layout characters only. -/
def isAsciiBlank (c : Code) : Bool := (9 ≤ c.val && c.val ≤ 13) || c.val == 32

/-- Shown as itself in a quoted text. -/
def isPrintable (c : Code) : Bool :=
  if c.isAscii then 32 ≤ c.val && c.val < 127
  else c.val < 0x110000 && !Text.Table.unprintable.contains c.val

/-- May start a name. -/
def isIdentifierStart (c : Code) : Bool :=
  if c.isAscii then c = '_' || c.isAsciiLetter else Text.Table.identifierStart.contains c.val

/-- May stand in a name after its first letter. -/
def isIdentifierPart (c : Code) : Bool :=
  c.isIdentifierStart || c.isAsciiDigit || Text.Table.identifierExtra.contains c.val

end Code

namespace Text

/-- A name: a starting letter, then letters and digits. -/
def isIdentifier : Text → Bool
  | [] => false
  | c :: rest => c.isIdentifierStart && rest.all Code.isIdentifierPart

/-- The text without the blanks at either end. -/
def trim (t : Text) : Text := dropRightWhile Code.isBlank (t.dropWhile Code.isBlank)

/-- The text without the blanks at its end. -/
def trimRight (t : Text) : Text := dropRightWhile Code.isBlank t

/-- Nothing but blanks. -/
def isBlank (t : Text) : Bool := t.all Code.isBlank

end Text

end LogHarvest
