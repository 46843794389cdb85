import LogHarvest.Pattern.Expr
import LogHarvest.Text.Class
import LogHarvest.Text.Lower

/-!
# Tests of one code

Under a folding rule a code is lowered before it is compared. A few small letters share their
capital, of one code or of several, with another small letter, and those count as equal too. A set
is folded only when it has a member with two cases, so that its named classes see the code as it is
otherwise.
-/

namespace LogHarvest.Pattern

namespace Fold

/-- Small letters that share a capital. -/
def siblings : List (List Nat) := [
  [0x69, 0x131], [0x73, 0x17F], [0xB5, 0x3BC], [0x345, 0x3B9, 0x1FBE], [0x390, 0x1FD3],
  [0x3B2, 0x3D0], [0x3B5, 0x3F5], [0x3B8, 0x3D1], [0x3BA, 0x3F0], [0x3C0, 0x3D6],
  [0x3C1, 0x3F1], [0x3C2, 0x3C3], [0x3C6, 0x3D5], [0x3B0, 0x1FE3], [0x432, 0x1C80],
  [0x434, 0x1C81], [0x43E, 0x1C82], [0x441, 0x1C83], [0x442, 0x1C84, 0x1C85],
  [0x44A, 0x1C86], [0x463, 0x1C87], [0x1C88, 0xA64B], [0x1E61, 0x1E9B], [0xFB05, 0xFB06]]

/-- A small letter with those that share its capital. -/
def family (n : Nat) : List Nat := (siblings.find? (·.contains n)).getD [n]

/-- A code as the rule compares it. -/
def lower : Fold → Code → Code
  | .exact, c => c
  | .ascii, c => c.asciiLower
  | .unicode, c => c.lower

/-- Whether a code has two cases under the rule. -/
def hasCase : Fold → Code → Bool
  | .exact, _ => false
  | .ascii, c => c.isAsciiLetter
  | .unicode, c => c.hasCase

/-- Whether two codes count as the same. The rule is not symmetric: a letter with one case
matches itself alone. -/
def matchesLiteral (fold : Fold) (a c : Code) : Bool :=
  match fold with
  | .exact => c = a
  | .ascii => c.asciiLower = a.asciiLower
  | .unicode => if a.hasCase then (family a.lower.val).contains c.lower.val else c = a

/-- Whether some code of a range has two cases under the rule. -/
def rangeHasCase (fold : Fold) (lo hi : Nat) : Bool :=
  match fold with
  | .exact => false
  | .ascii => (lo ≤ 90 && 65 ≤ hi) || (lo ≤ 122 && 97 ≤ hi)
  | .unicode =>
    Text.Table.lowerRuns.any (·.meets lo hi) || Text.Table.upperRuns.any (·.meets lo hi) ||
      Text.Table.spreadUpper.any fun r => max lo r.1 ≤ min hi r.2

/-- Whether a lowered code is the lower form of a code of a range. Beyond the basic plane the
range holds the code itself or its capital. -/
def rangeHolds (fold : Fold) (lo hi : Nat) (c : Code) : Bool :=
  let inside (n : Nat) : Bool := lo ≤ n && n ≤ hi
  match fold with
  | .exact => inside c.val
  | .ascii => inside c.val || (c.isAsciiLower && inside (c.val - 32)) ||
      (0x10000 ≤ hi && inside c.upper.val)
  | .unicode =>
    let insideLow (n : Nat) : Bool := inside n && n < 0x10000
    (family c.val).any (fun l =>
      ((⟨l⟩ : Code).lower = ⟨l⟩ && insideLow l) ||
        (Text.Table.CaseRun.preimages Text.Table.lowerRuns l).any insideLow) ||
      (0x10000 ≤ hi && (inside c.val || inside c.upper.val))

end Fold

namespace Category

/-- Membership in a class, by ASCII rules or by those of all scripts. -/
def holds : Category → (ascii : Bool) → Code → Bool
  | .digit, true, c => c.isAsciiDigit
  | .digit, false, c => c.isDigit
  | .blank, true, c => c.isAsciiBlank
  | .blank, false, c => c.isBlank
  | .word, true, c => c.isAscii && c.isWord
  | .word, false, c => c.isWord

end Category

def ClassTest.holds (t : ClassTest) (c : Code) : Bool := t.category.holds t.ascii c != t.negated

namespace SetItem

/-- Whether an item holds a code that has been lowered by the rule. -/
def holds (fold : Fold) (c : Code) : SetItem → Bool
  | .code a =>
    match fold with
    | .exact => c = a
    | .ascii => c = a.asciiLower
    | .unicode =>
      if a.lower.val < 0x10000 then (Fold.family a.lower.val).contains c.val else c = a
  | .range lo hi => fold.rangeHolds lo.val hi.val c
  | .category test => test.holds c

/-- Whether an item makes its set fold. -/
def folds (fold : Fold) : SetItem → Bool
  | .code a => fold ≠ .exact && (fold.hasCase a || 0x10000 ≤ a.val)
  | .range lo hi => fold ≠ .exact && (fold.rangeHasCase lo.val hi.val || 0x10000 ≤ hi.val)
  | .category _ => false

end SetItem

namespace CharTest

/-- The test for a bracketed set. A set of one code is that code. -/
def ofSet (fold : Fold) (negated : Bool) (items : List SetItem) : CharTest :=
  match items.eraseDups with
  | [.code c] => .literal fold negated c
  | _ => .set (if items.any (SetItem.folds fold) then fold else .exact) negated items

/-- Whether a code passes a test. -/
def holds : CharTest → Code → Bool
  | .literal fold negated a, c => fold.matchesLiteral a c != negated
  | .any lineFeedToo, c => lineFeedToo || c ≠ '\n'
  | .set fold negated items, c => items.any (SetItem.holds fold (fold.lower c)) != negated

end CharTest

end LogHarvest.Pattern
