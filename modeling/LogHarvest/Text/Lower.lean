import LogHarvest.Text.Code
import LogHarvest.Text.Table.Case

/-!
# Lower case

A text is lowered code by code, with two exceptions: the dotted capital I becomes two codes,
and a capital sigma that ends a word becomes the final form.
-/

namespace LogHarvest

namespace Code

/-- The lower-case form when it is a single code; other codes stay. -/
def lower (c : Code) : Code :=
  if c.isAscii then if c.isAsciiUpper then ⟨c.val + 32⟩ else c
  else ⟨Text.Table.CaseRun.apply Text.Table.lowerRuns c.val⟩

/-- The upper-case form when it is a single code; other codes stay. -/
def upper (c : Code) : Code :=
  if c.isAscii then if c.isAsciiLower then ⟨c.val - 32⟩ else c
  else ⟨Text.Table.CaseRun.apply Text.Table.upperRuns c.val⟩

/-- Lower case among the ASCII letters alone. -/
def asciiLower (c : Code) : Code := if c.isAsciiUpper then ⟨c.val + 32⟩ else c

/-- Has another form in the other case, of one code or of several. -/
def hasCase (c : Code) : Bool :=
  c.lower ≠ c || c.upper ≠ c || Text.Table.spreadUpper.any fun r => r.1 ≤ c.val && c.val ≤ r.2

end Code

namespace Text

def capitalSigma : Code := ⟨0x3A3⟩

def smallSigma : Code := ⟨0x3C3⟩

def finalSigma : Code := ⟨0x3C2⟩

/-- Whether the nearest code that is not case-ignorable is a cased letter. -/
def meetsLetter (t : Text) : Bool :=
  match t.dropWhile fun c => Table.caseIgnorable.contains c.val with
  | [] => false
  | c :: _ => Table.cased.contains c.val

/-- Lowers the codes of a text, given those before it, nearest first. -/
def lowerAfter : Text → Text → Text
  | _, [] => []
  | before, c :: rest =>
    let image : Text :=
      if c = capitalSigma then
        [if meetsLetter before && !meetsLetter rest then finalSigma else smallSigma]
      else if c.val = 0x130 then [⟨0x69⟩, ⟨0x307⟩]
      else [c.lower]
    image ++ lowerAfter (c :: before) rest

/-- The text in lower case. -/
def lower (t : Text) : Text := lowerAfter [] t

end Text

end LogHarvest
