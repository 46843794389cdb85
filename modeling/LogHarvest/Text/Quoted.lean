import LogHarvest.Text.Class

/-!
# Quoted texts

How a text is shown inside a message: between quotes, with everything unprintable escaped.
Single quotes are preferred; double quotes are taken when the text holds a single quote and
no double one.
-/

namespace LogHarvest.Text.Quoted

/-- The lower-case hexadecimal digit of a number below sixteen. -/
def hexDigit (n : Nat) : Code := if n < 10 then ⟨48 + n⟩ else ⟨87 + n⟩

/-- A number in exactly `width` hexadecimal digits. -/
def hex : (width : Nat) → Nat → Text
  | 0, _ => []
  | width + 1, n => hex width (n / 16) ++ [hexDigit (n % 16)]

/-- The quote that a text is put between. -/
def quoteFor (t : Text) : Code :=
  if (('\'' : Char) : Code) ∈ t ∧ (('"' : Char) : Code) ∉ t then '"' else '\''

/-- One code between the given quotes. -/
def escape (quote c : Code) : Text :=
  if c = quote ∨ c = '\\' then ['\\', c]
  else if c = '\t' then ['\\', 't']
  else if c = '\n' then ['\\', 'n']
  else if c = '\r' then ['\\', 'r']
  else if c.isPrintable then [c]
  else if c.val < 0x100 then ('\\' : Code) :: ('x' : Code) :: hex 2 c.val
  else if c.val < 0x10000 then ('\\' : Code) :: ('u' : Code) :: hex 4 c.val
  else ('\\' : Code) :: ('U' : Code) :: hex 8 c.val

/-- The text between quotes. -/
def encode (t : Text) : Text :=
  let quote := quoteFor t
  quote :: t.flatMap (escape quote) ++ [quote]

/-- A list of texts, as shown in a message. -/
def encodeList (ts : List Text) : Text :=
  (('[' : Char) : Code) :: join [',', ' '] (ts.map encode) ++ [((']' : Char) : Code)]

end LogHarvest.Text.Quoted
