import LogHarvest.Text.RangeSet
import LogHarvest.Text.Table.Names.Alias
import LogHarvest.Text.Table.Names.Ancient
import LogHarvest.Text.Table.Names.Asian
import LogHarvest.Text.Table.Names.EastAsian
import LogHarvest.Text.Table.Names.European
import LogHarvest.Text.Table.Names.Form
import LogHarvest.Text.Table.Names.Mathematical
import LogHarvest.Text.Table.Names.Notation
import LogHarvest.Text.Table.Names.Pictograph
import LogHarvest.Text.Table.Names.Pictorial
import LogHarvest.Text.Table.Names.Syllabic
import LogHarvest.Text.Table.Names.Symbol

/-!
# Names of code points

All names of Unicode 14: those that are listed, those that end in the number of the code point, and
the parts of those that are put together.
-/

namespace LogHarvest.Text.Table

/-- The names that are listed, in the order of their code points. -/
def nameRuns : List NameRun :=
  europeanNames ++ asianNames ++ syllabicNames ++ symbolNames ++ mathematicalNames ++
    eastAsianNames ++ formNames ++ ancientNames ++ pictorialNames ++ notationNames ++
    pictographNames

/-- The names that end in the number of the code point: what comes before it, and the code points
from one to another that are named so. -/
def numberedNames : List (String × Nat × Nat) := [
  ("CJK COMPATIBILITY IDEOGRAPH-", 0xF900, 0xFA6D),
  ("CJK COMPATIBILITY IDEOGRAPH-", 0xFA70, 0xFAD9),
  ("CJK COMPATIBILITY IDEOGRAPH-", 0x2F800, 0x2FA1D),
  ("KHITAN SMALL SCRIPT CHARACTER-", 0x18B00, 0x18CD5), ("NUSHU CHARACTER-", 0x1B170, 0x1B2FB)]

/-- The unified ideographs. -/
def unifiedIdeograph : RangeSet := RangeSet.ofList [
  (0x3400, 0x4DBF), (0x4E00, 0x9FFF), (0x20000, 0x2A6DF), (0x2A700, 0x2B738), (0x2B740, 0x2B81D),
  (0x2B820, 0x2CEA1), (0x2CEB0, 0x2EBE0), (0x30000, 0x3134A)]

/-- The first letters of Hangul syllables. -/
def hangulInitials : List String :=
  ["G", "GG", "N", "D", "DD", "R", "M", "B", "BB", "S", "SS", "", "J", "JJ", "C", "K", "T", "P", "H"]

/-- The vowels of Hangul syllables. -/
def hangulVowels : List String :=
  ["A", "AE", "YA", "YAE", "EO", "E", "YEO", "YE", "O", "WA", "WAE", "OE", "YO", "U", "WEO", "WE",
    "WI", "YU", "EU", "YI", "I"]

/-- The last letters of Hangul syllables. -/
def hangulFinals : List String :=
  ["", "G", "GG", "GS", "N", "NJ", "NH", "D", "L", "LG", "LM", "LB", "LS", "LT", "LP", "LH", "M", "B",
    "BS", "S", "SS", "NG", "J", "C", "K", "T", "P", "H"]

end LogHarvest.Text.Table
