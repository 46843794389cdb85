/-!
# Text as a list of code points

Everything the library reads and writes is a list of code points. A code point is any
number, because a text may hold what `Char` cannot: surrogates, which a source literal can
spell out one by one, and stray bytes of a file that is not well-formed UTF-8, which are
kept as numbers above U+10FFFF until somebody asks for the text they stand in.
-/

namespace LogHarvest

/-- One unit of text: a code point, or from `0x110000` up the byte `val - 0x110000` of a file
that no encoded character accounts for. -/
structure Code where
  val : Nat
deriving DecidableEq

namespace Code

/-- The code of a character. -/
def ofChar (c : Char) : Code := ⟨c.toNat⟩

instance : Coe Char Code := ⟨ofChar⟩

instance : Inhabited Code := ⟨⟨0⟩⟩

/-- The code of a byte that belongs to no encoded character. -/
def stray (byte : Nat) : Code := ⟨0x110000 + byte⟩

/-- Surrogates have a number but no encoding. -/
def isSurrogate (c : Code) : Bool := 0xD800 ≤ c.val && c.val ≤ 0xDFFF

def isAscii (c : Code) : Bool := c.val < 128

/-- One of `0` to `9`; digits of other scripts do not count. -/
def isAsciiDigit (c : Code) : Bool := 48 ≤ c.val && c.val ≤ 57

def isOctalDigit (c : Code) : Bool := 48 ≤ c.val && c.val ≤ 55

def isAsciiLower (c : Code) : Bool := 97 ≤ c.val && c.val ≤ 122

def isAsciiUpper (c : Code) : Bool := 65 ≤ c.val && c.val ≤ 90

def isAsciiLetter (c : Code) : Bool := c.isAsciiLower || c.isAsciiUpper

def isHexDigit (c : Code) : Bool :=
  c.isAsciiDigit || (97 ≤ c.val && c.val ≤ 102) || (65 ≤ c.val && c.val ≤ 70)

/-- The value of a digit in any base up to sixteen; other codes count as zero. -/
def digitValue (c : Code) : Nat :=
  if c.isAsciiDigit then c.val - 48
  else if 97 ≤ c.val && c.val ≤ 102 then c.val - 87
  else if 65 ≤ c.val && c.val ≤ 70 then c.val - 55
  else 0

/-- The character of a code that is one. -/
def toChar? (c : Code) : Option Char :=
  if h : c.val.isValidChar then some (Char.ofNatAux c.val h) else none

@[simp] theorem val_ofChar (c : Char) : (ofChar c).val = c.toNat := rfl

@[simp] theorem ofChar_inj {a b : Char} : ofChar a = ofChar b ↔ a = b := by
  constructor
  · intro h
    have : a.toNat = b.toNat := congrArg Code.val h
    exact Char.toNat_inj.1 this
  · rintro rfl
    rfl

end Code

/-- A text is a list of codes. -/
abbrev Text := List Code

namespace Text

def ofChars (cs : List Char) : Text := cs.map Code.ofChar

def ofString (s : String) : Text := ofChars s.toList

instance : Coe String Text := ⟨ofString⟩

instance : Coe (List Char) Text := ⟨ofChars⟩

@[simp] theorem ofChars_nil : ofChars [] = [] := rfl

@[simp] theorem ofChars_cons (c : Char) (cs : List Char) :
    ofChars (c :: cs) = (c : Code) :: ofChars cs := rfl

/-- The text as a string, when every code is a character. -/
def toString? (t : Text) : Option String :=
  (t.mapM Code.toChar?).map String.ofList

/-- The digits of a number, most significant first. -/
def ofNat (n : Nat) : Text := ofChars (Nat.toDigits 10 n)

def ofInt : Int → Text
  | .ofNat n => ofNat n
  | .negSucc n => ('-' : Code) :: ofNat (n + 1)

/-- The number that a run of digits writes in a base. -/
def toNat (base : Nat) (digits : Text) : Nat :=
  digits.foldl (fun n c => n * base + c.digitValue) 0

theorem toNat_concat (base : Nat) (digits : Text) (c : Code) :
    toNat base (digits ++ [c]) = toNat base digits * base + c.digitValue := by
  simp [toNat]

/-- The pieces between the occurrences of a separator; there is always at least one. -/
def splitOn (sep : Code) : Text → List Text
  | [] => [[]]
  | c :: rest =>
    if c = sep then [] :: splitOn sep rest
    else match splitOn sep rest with
      | [] => [[c]]
      | piece :: pieces => (c :: piece) :: pieces

/-- The pieces with a separator between each two. -/
def join (sep : Text) : List Text → Text
  | [] => []
  | [piece] => piece
  | piece :: pieces => piece ++ sep ++ join sep pieces

/-- The lines, each ended by a line feed. -/
def unlines (lines : List Text) : Text := lines.flatMap fun line => line ++ [('\n' : Code)]

/-- The text without its longest suffix of codes that satisfy the test. -/
def dropRightWhile (p : Code → Bool) (t : Text) : Text := (t.reverse.dropWhile p).reverse

/-- The text without the line terminators at its end. -/
def dropLineEnd (t : Text) : Text := dropRightWhile (fun c => c = '\r' || c = '\n') t

/-- Code point order, a shorter text before its extensions. -/
def le : Text → Text → Bool
  | [], _ => true
  | _ :: _, [] => false
  | a :: s, b :: t => a.val < b.val || (a = b && le s t)

/-- The texts in code point order, each once. -/
def sortedSet (ts : List Text) : List Text := (ts.eraseDups).mergeSort le

/-- The number of non-overlapping occurrences of a two-code marker. -/
def countPair (a b : Code) : Text → Nat
  | c :: d :: rest => if c = a ∧ d = b then countPair a b rest + 1 else countPair a b (d :: rest)
  | _ => 0

end Text

end LogHarvest
