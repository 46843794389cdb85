import LogHarvest.Text.Code

/-!
# From a message template to the text of a pattern

A template is the text a program logs, with `{}` wherever a value goes. It is scanned once
from the left: a marker becomes a group, a character that means something in a pattern is
escaped, and the three characters that would break a record of a pattern file are written as
escapes of their own. What a marker became is not scanned again.
-/

namespace LogHarvest.Template

/-- The two codes of a marker. -/
def markerOpen : Code := '{'

def markerClose : Code := '}'

/-- The group that stands for a marker: one word, remembered. -/
def wordGroup : Text := Text.ofChars ['(', '[', '\\', 'w', ']', '+', ')']

/-- The characters with a meaning somewhere in a pattern. -/
def specialCharacters : List Char :=
  ['\\', '.', '^', '$', '*', '+', '?', '(', ')', '[', ']', '{', '}', '-', '<', '>', '=', '!']

/-- How a code of literal text is written in a pattern. -/
def escapeCode (c : Code) : Text :=
  if c = '|' then ['\\', 'x', '7', 'c']
  else if c = '\n' then ['\\', 'n']
  else if c = '\r' then ['\\', 'r']
  else if c ∈ Text.ofChars specialCharacters then ['\\', c]
  else [c]

/-- The pattern text of a template, with a given text in the place of each marker. -/
def escapeWith (group : Text) : Text → Text
  | [] => []
  | [c] => escapeCode c
  | c :: d :: rest =>
    if c = markerOpen ∧ d = markerClose then group ++ escapeWith group rest
    else escapeCode c ++ escapeWith group (d :: rest)

/-- The pattern text of a template. -/
def escape (template : Text) : Text := escapeWith wordGroup template

/-- The number of markers in a template. -/
def markerCount (template : Text) : Nat := Text.countPair markerOpen markerClose template

end LogHarvest.Template
