import LogHarvest.Text.Class
import LogHarvest.Text.Table.Names

/-!
# Code points by name and digits by value
-/

namespace LogHarvest

namespace Code

/-- The value of a decimal digit of any script. -/
def decimalValue? (c : Code) : Option Nat :=
  if c.isAscii then if c.isAsciiDigit then some (c.val - 48) else none
  else (Text.Table.digit.rangeOf? c.val).map fun r => (c.val - r.1) % 10

/-- A letter of any script. -/
def isLetter (c : Code) : Bool :=
  if c.isAscii then c.isAsciiLetter
  else Text.Table.word.contains c.val && !Text.Table.number.contains c.val

end Code

namespace Text

/-- The text with its ASCII letters in upper case. -/
def asciiUpper (t : Text) : Text := t.map fun c => if c.isAsciiLower then ⟨c.val - 32⟩ else c

/-- The part of a text after another one that it starts with. -/
def after? (start t : Text) : Option Text :=
  if start.isPrefixOf t then some (t.drop start.length) else none

/-- The longest of some names that a text starts with: its place among them, and the rest. -/
def takeLongest? (names : List String) (t : Text) : Option (Nat × Text) :=
  let rests := names.zipIdx.filterMap fun n => (after? (ofString n.1) t).map fun rest => (n.2, rest)
  rests.minOn? fun n => n.2.length

/-- The Hangul syllable of some letters. -/
def hangulSyllable? (letters : Text) : Option Code := do
  let (initial, rest) ← takeLongest? Table.hangulInitials letters
  let (vowel, rest) ← takeLongest? Table.hangulVowels rest
  let (final, rest) ← takeLongest? Table.hangulFinals rest
  if rest.isEmpty then some ⟨0xAC00 + (initial * 21 + vowel) * 28 + final⟩ else none

/-- The unified ideograph of some number. -/
def unifiedIdeograph? (digits : Text) : Option Code :=
  let n := toNat 16 digits
  if (digits.length = 4 ∨ digits.length = 5) ∧
      digits.all (fun c => c.isHexDigit && !c.isAsciiLower) ∧ Table.unifiedIdeograph.contains n
  then some ⟨n⟩ else none

/-- The code point of a name that ends in its number. -/
def numberedCode? (name : Text) : Option Code :=
  Table.numberedNames.findSome? fun (start, first, last) =>
    (after? (ofString start) name).bind fun digits =>
      let n := toNat 16 digits
      if digits = asciiUpper (ofChars (Nat.toDigits 16 n)) ∧ first ≤ n ∧ n ≤ last then some ⟨n⟩
      else none

/-- The code point with a name. Letter case does not count, except where the name is put together
from letters or digits. -/
def codeOfName? (name : Text) : Option Code :=
  match after? (ofString "HANGUL SYLLABLE ") name with
  | some letters => hangulSyllable? letters
  | none =>
    match after? (ofString "CJK UNIFIED IDEOGRAPH-") name with
    | some digits => unifiedIdeograph? digits
    | none =>
      let name := asciiUpper name
      (Table.nameRuns.findSome? (·.codeOf? name)).orElse fun _ =>
        (numberedCode? name).orElse fun _ =>
          (Table.aliases.find? fun s => ofString s.1 = name).map fun s => ⟨s.2⟩

/-- The value of a run of decimal digits of any script, in which single underscores may stand
between two digits. -/
def digitsValue? (acc : Nat) : Text → Option Nat
  | [] => some acc
  | c :: rest =>
    match c.decimalValue? with
    | some d => digitsValue? (acc * 10 + d) rest
    | none =>
      if c = '_' then
        match rest with
        | [] => none
        | d :: rest =>
          match d.decimalValue? with
          | some v => digitsValue? (acc * 10 + v) rest
          | none => none
      else none

/-- A number with more digits than this is not taken as one. -/
def maxDigits : Nat := 4300

/-- The integer that a text writes: digits with an optional sign before them and blanks
around. -/
def toInt? (t : Text) : Option Int :=
  let t := t.trim
  let signed (t : Text) : Option Nat :=
    match t with
    | [] => none
    | c :: rest => c.decimalValue?.bind fun d => digitsValue? d rest
  match t with
  | [] => none
  | c :: rest =>
    if t.countP (·.decimalValue?.isSome) > maxDigits then none
    else if c = '-' then (signed rest).map fun n => -(n : Int)
    else if c = '+' then (signed rest).map Int.ofNat
    else (signed t).map Int.ofNat

end Text

end LogHarvest
