import LogHarvest.Text.Class
import LogHarvest.Text.Lines

/-!
# The text of a string literal

A plain literal stands between quotes. A text block stands between triple quotes: it begins on
the line after the opening ones, loses the indentation that all its lines share and the blanks
at the ends of its lines, and only then are its escapes read. What an escape yields is not
scanned again.
-/

namespace LogHarvest.Java.Literal

/-- The letters of the one-letter escapes and what they stand for. -/
def simpleEscapes : List (Char × Char) := [
  ('b', '\x08'), ('t', '\t'), ('n', '\n'), ('f', '\x0c'), ('r', '\r'), ('s', ' '),
  ('"', '"'), ('\'', '\''), ('\\', '\\')]

/-- The number of octal digits an octal escape takes: three when the value stays below 256,
two otherwise, and fewer when fewer are there. -/
def octalLength (t : Text) : Nat :=
  match t with
  | [] => 0
  | d :: _ =>
    let digits := (t.takeWhile Code.isOctalDigit).length
    min digits (if d.val ≤ 51 then 3 else 2)

/-- What the escape after a backslash stands for and how many codes it takes. A backslash
before a line feed joins two lines of a text block. -/
def readEscape? (t : Text) : Option (Text × Nat) :=
  match t with
  | [] => none
  | c :: _ =>
    if c = 'u' then
      let us := (t.takeWhile (· = ('u' : Code))).length
      let digits := (t.drop us).take 4
      if digits.length = 4 ∧ digits.all Code.isHexDigit then
        some ([⟨Text.toNat 16 digits⟩], us + 4)
      else none
    else if c.isOctalDigit then
      let length := octalLength t
      some ([⟨Text.toNat 8 (t.take length)⟩], length)
    else if c = '\n' then some ([], 1)
    else (simpleEscapes.find? fun e => c = e.1).map fun e => ([(e.2 : Code)], 1)

/-- The text with its escapes read, from the code after the next `skip` ones on. A backslash
that starts no escape stays. -/
def unescapeFrom : (skip : Nat) → Text → Text
  | _, [] => []
  | skip + 1, _ :: rest => unescapeFrom skip rest
  | 0, c :: rest =>
    if c = '\\' then
      match readEscape? rest with
      | some (image, length) => image ++ unescapeFrom length rest
      | none => c :: unescapeFrom 0 rest
    else c :: unescapeFrom 0 rest

/-- The text with its escapes read. -/
def unescape (t : Text) : Text := unescapeFrom 0 t

/-- A space or a tab: what a text block is indented with. -/
def isIndent (c : Code) : Bool := c = ' ' || c = '\t'

/-- The lines after the one with the opening quotes. -/
def blockLines (content : Text) : List Text :=
  match Text.splitOn '\n' content.normalizeNewlines with
  | _ :: line :: lines => line :: lines
  | _ => [[]]

/-- The length of the indentation of a line. -/
def indentLength (line : Text) : Nat := (line.takeWhile isIndent).length

/-- The lines that take part in the common indentation: those that are not blank, and the
last one even if it is. -/
def indentedLines : List Text → List Text
  | [] => []
  | [last] => [last]
  | line :: lines => if line.isBlank then indentedLines lines else line :: indentedLines lines

/-- The indentation that the lines share. -/
def commonIndent (lines : List Text) : Nat :=
  (((indentedLines lines).map indentLength).min?).getD 0

/-- A line without the common indentation and without the blanks at its end. -/
def stripLine (indent : Nat) (line : Text) : Text :=
  if line.isBlank then [] else Text.dropRightWhile isIndent (line.drop indent)

/-- The text of a block, given everything between its quotes, before its escapes are read. -/
def stripBlock (content : Text) : Text :=
  let lines := blockLines content
  Text.join ['\n'] (lines.map (stripLine (commonIndent lines)))

def isQuote (c : Code) : Bool := c = '"'

/-- Starts and ends with three quotes, which do not overlap. -/
def isBlockLiteral (literal : Text) : Bool :=
  literal.length ≥ 6 && (literal.take 3).all isQuote && (literal.reverse.take 3).all isQuote

/-- Starts and ends with a quote. -/
def isPlainLiteral (literal : Text) : Bool :=
  literal.length ≥ 2 && (literal.take 1).all isQuote && (literal.reverse.take 1).all isQuote

/-- What stands between the quotes of a literal, with the layout of a text block removed. -/
def body (literal : Text) : Text :=
  if isBlockLiteral literal then stripBlock ((literal.drop 3).dropLast.dropLast.dropLast)
  else if isPlainLiteral literal then (literal.drop 1).dropLast
  else literal

/-- The text that a literal evaluates to. -/
def value (literal : Text) : Text := unescape (body literal)

end LogHarvest.Java.Literal
