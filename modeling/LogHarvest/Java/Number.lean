import LogHarvest.Text.Code

/-!
# The length of number literals

Each function gives the length of what it names at the front of a text, zero if it is not
there. A number literal is the longest of its forms.
-/

namespace LogHarvest.Java.Number

/-- Groups of digits with underscores between them: one between two groups, or any number. -/
def groupsLength (digit : Code → Bool) (several : Bool) : (fuel : Nat) → Text → Nat
  | 0, _ => 0
  | fuel + 1, t =>
    let digits := (t.takeWhile digit).length
    let marks := ((t.drop digits).takeWhile (· = ('_' : Code))).length
    if digits = 0 ∨ marks = 0 ∨ (marks > 1 ∧ !several) then digits
    else
      let more := groupsLength digit several fuel (t.drop (digits + marks))
      if more = 0 then digits else digits + marks + more

def groups (digit : Code → Bool) (several : Bool) (t : Text) : Nat :=
  groupsLength digit several t.length t

/-- Decimal digits. -/
def decimals (t : Text) : Nat := groups Code.isAsciiDigit true t

def isBinaryDigit (c : Code) : Bool := c = '0' || c = '1'

/-- One if the next code passes a test. -/
def one (test : Code → Bool) (t : Text) : Nat :=
  match t with
  | [] => 0
  | c :: _ => if test c then 1 else 0

def oneOf (cs : List Char) (t : Text) : Nat := one (fun c => (Text.ofChars cs).contains c) t

/-- One part after the other; the second must be there. -/
def andThen (first : Nat) (second : Text → Nat) (t : Text) : Nat :=
  if first = 0 then 0
  else
    let more := second (t.drop first)
    if more = 0 then 0 else first + more

/-- One part and the other if it is there. -/
def andMaybe (first : Nat) (second : Text → Nat) (t : Text) : Nat :=
  if first = 0 then 0 else first + second (t.drop first)

/-- A decimal integer that does not start with a zero, or a single zero. -/
def whole (t : Text) : Nat :=
  match t with
  | [] => 0
  | c :: rest =>
    if c = '0' then 1
    else if c.isAsciiDigit then
      let mark := oneOf ['_'] rest
      let more := decimals (rest.drop mark)
      if more = 0 then 1 else 1 + mark + more
    else 0

def longSuffix (t : Text) : Nat := oneOf ['l', 'L'] t

def floatSuffix (t : Text) : Nat := oneOf ['f', 'F', 'd', 'D'] t

/-- An integer of another base, after its first two codes. -/
def based (letters : List Char) (digit : Code → Bool) (t : Text) : Nat :=
  let mark := andThen (oneOf ['0'] t) (oneOf letters) t
  let digits := andThen mark (groups digit false) t
  andMaybe digits longSuffix t

def octal (t : Text) : Nat :=
  let digits := andThen (oneOf ['0'] t) (groups Code.isOctalDigit false) t
  max (based ['o', 'O'] Code.isOctalDigit t) (andMaybe digits longSuffix t)

def integer (t : Text) : Nat :=
  let plain := andMaybe (whole t) longSuffix t
  let hex := based ['x', 'X'] Code.isHexDigit t
  let binary := based ['b', 'B'] isBinaryDigit t
  max (max plain hex) (max (octal t) binary)

/-- An exponent that starts with one of some letters. -/
def exponentOf (letters : List Char) (digits : Text → Nat) (t : Text) : Nat :=
  let letter := oneOf letters t
  if letter = 0 then 0
  else
    let sign := oneOf ['+', '-'] (t.drop 1)
    andThen (1 + sign) digits t

def exponent (t : Text) : Nat := exponentOf ['e', 'E'] decimals t

/-- A point and the digits after it, at least one if they are required. -/
def fraction (required : Bool) (t : Text) : Nat :=
  if required then andThen (oneOf ['.'] t) decimals t else andMaybe (oneOf ['.'] t) decimals t

/-- A decimal fraction: with a point, or with an exponent or a suffix. -/
def decimalFraction (t : Text) : Nat :=
  let ended (n : Nat) : Nat := andMaybe (andMaybe n exponent t) floatSuffix t
  let withPoint := andThen (decimals t) (fraction false) t
  let withExponent := andThen (whole t) (exponentOf ['e', 'E', 'p', 'P'] decimals) t
  let withSuffix := andThen (andMaybe (whole t) exponent t) floatSuffix t
  max (max (ended withPoint) (ended (fraction true t)))
    (max (andMaybe withExponent floatSuffix t) withSuffix)

/-- A hexadecimal fraction. -/
def hexFraction (t : Text) : Nat :=
  let mark := andThen (oneOf ['0'] t) (oneOf ['x', 'X']) t
  let digits : Text → Nat := groups Code.isHexDigit false
  let point : Text → Nat := oneOf ['.']
  let before := andMaybe (andThen mark digits t) point t
  let after := andThen (andThen (max mark (andThen mark digits t)) point t) digits t
  let scale (u : Text) : Nat := andMaybe (exponentOf ['e', 'E', 'p', 'P'] whole u) floatSuffix u
  max (andMaybe before scale t) (andMaybe after scale t)

/-- A number literal. -/
def literal (t : Text) : Nat := max (integer t) (max (decimalFraction t) (hexFraction t))

end LogHarvest.Java.Number
