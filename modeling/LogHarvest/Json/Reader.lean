import LogHarvest.Json.Value

/-!
# Reading JSON

A reader of one value with blanks around it. It accepts the standard's grammar and the three
number names `NaN`, `Infinity` and `-Infinity`, and says of a text it refuses what it expected
and where.
-/

namespace LogHarvest.Json

open Text (ofString)

/-- What a reader expected or met. -/
inductive Fault where
  | value
  | name
  | colon
  | comma
  | extraData
  | unterminatedString
  | controlCharacter
  | escape
  | unicodeEscape
  | byteOrderMark
deriving DecidableEq

/-- A fault and its place in the text. -/
structure ReadError where
  fault : Fault
  place : Nat
deriving DecidableEq

def Fault.text : Fault → Text
  | .value => "Expecting value"
  | .name => "Expecting property name enclosed in double quotes"
  | .colon => "Expecting ':' delimiter"
  | .comma => "Expecting ',' delimiter"
  | .extraData => "Extra data"
  | .unterminatedString => "Unterminated string starting at"
  | .controlCharacter => "Invalid control character at"
  | .escape => "Invalid \\escape"
  | .unicodeEscape => "Invalid \\uXXXX escape"
  | .byteOrderMark => "Unexpected UTF-8 BOM (decode using utf-8-sig)"

/-- The fault with its line, column and place in the text that was read. -/
def ReadError.message (e : ReadError) (source : Text) : Text :=
  let before := source.take e.place
  let row := before.count ('\n' : Code)
  let column := (before.reverse.takeWhile (· ≠ ('\n' : Code))).length
  e.fault.text ++ ofString ": line " ++ Text.ofNat (row + 1) ++ ofString " column " ++
    Text.ofNat (column + 1) ++ ofString " (char " ++ Text.ofNat e.place ++ [(')' : Code)]

/-- The part of a text from some place on. -/
structure Tail where
  place : Nat
  text : Text

namespace Tail

def drop (t : Tail) (n : Nat) : Tail := ⟨t.place + n, t.text.drop n⟩

def fail {α : Type} (t : Tail) (fault : Fault) : Except ReadError α := .error ⟨fault, t.place⟩

/-- The tail after the blanks at its front. -/
def skipBlanks (t : Tail) : Tail :=
  t.drop (t.text.takeWhile fun c : Code => c = ' ' || c = '\t' || c = '\n' || c = '\r').length

end Tail

/-- Four hexadecimal digits. -/
def fourHex? (t : Text) : Option Nat :=
  let digits := t.take 4
  if digits.length = 4 ∧ digits.all Code.isHexDigit then some (Text.toNat 16 digits) else none

/-- The code that a one-letter escape stands for. -/
def simpleEscape? (c : Code) : Option Code :=
  if c = '"' ∨ c = '\\' ∨ c = '/' then some c
  else if c = 'b' then some ⟨8⟩
  else if c = 'f' then some ⟨12⟩
  else if c = 'n' then some '\n'
  else if c = 'r' then some '\r'
  else if c = 't' then some '\t'
  else none

/-- Reads the escape whose backslash has just been read: the code and the tail after it. Two
escaped surrogates that belong together make one code. -/
def readEscape (opening : Nat) (t : Tail) : Except ReadError (Code × Tail) :=
  match t.text with
  | [] => .error ⟨.unterminatedString, opening⟩
  | c :: rest =>
    if c ≠ 'u' then
      match simpleEscape? c with
      | some d => .ok (d, t.drop 1)
      | none => .error ⟨.escape, t.place - 1⟩
    else if rest.length < 5 then t.fail .unicodeEscape
    else
      match fourHex? rest with
      | none => t.fail .unicodeEscape
      | some high =>
        let single := (⟨high⟩, t.drop 5)
        match rest.drop 4 with
        | b :: u :: rest' =>
          if 0xD800 ≤ high ∧ high < 0xDC00 ∧ b = '\\' ∧ u = 'u' ∧ rest'.length ≥ 5 then
            match fourHex? rest' with
            | none => (t.drop 6).fail .unicodeEscape
            | some low =>
              if 0xDC00 ≤ low ∧ low < 0xE000 then
                .ok (⟨0x10000 + (high - 0xD800) * 1024 + (low - 0xDC00)⟩, t.drop 11)
              else .ok single
          else .ok single
        | _ => .ok single

/-- Reads a string whose opening quote has been read. -/
def readString (opening : Nat) : (fuel : Nat) → Tail → Except ReadError (Text × Tail)
  | 0, _ => .error ⟨.unterminatedString, opening⟩
  | fuel + 1, t =>
    match t.text with
    | [] => .error ⟨.unterminatedString, opening⟩
    | c :: _ =>
      if c = '"' then .ok ([], t.drop 1)
      else if c = '\\' then do
        let (d, t) ← readEscape opening (t.drop 1)
        let (rest, t) ← readString opening fuel t
        pure (d :: rest, t)
      else if c.val < 32 then t.fail .controlCharacter
      else do
        let (rest, t) ← readString opening fuel (t.drop 1)
        pure (c :: rest, t)

/-- The length of the exponent at the front of a text, zero when there is none. -/
def exponentLength (t : Text) : Nat :=
  match t with
  | [] => 0
  | e :: rest =>
    if e = 'e' ∨ e = 'E' then
      let sign := match rest with
        | s :: _ => if s = '+' ∨ s = '-' then 1 else 0
        | [] => 0
      let digits := ((rest.drop sign).takeWhile Code.isAsciiDigit).length
      if digits = 0 then 0 else 1 + sign + digits
    else 0

/-- The length of the fraction at the front of a text, zero when there is none. -/
def fractionLength (t : Text) : Nat :=
  match t with
  | [] => 0
  | d :: rest =>
    if d = '.' then
      let digits := (rest.takeWhile Code.isAsciiDigit).length
      if digits = 0 then 0 else 1 + digits
    else 0

/-- The length of the digits before the fraction: a lone zero, or a run that starts with none. -/
def wholeLength (t : Text) : Nat :=
  match t with
  | [] => 0
  | d :: _ => if d = '0' then 1 else (t.takeWhile Code.isAsciiDigit).length

/-- Reads a number or one of the number names. -/
def readNumber (t : Tail) : Except ReadError (Json × Tail) :=
  let sign := match t.text with
    | c :: _ => if c = '-' then 1 else 0
    | [] => 0
  let whole := wholeLength (t.text.drop sign)
  if whole = 0 then t.fail .value
  else
    let afterWhole := t.text.drop (sign + whole)
    let fraction := fractionLength afterWhole
    let exponent := exponentLength (afterWhole.drop fraction)
    let length := sign + whole + fraction + exponent
    if fraction + exponent = 0 then
      let n := Text.toNat 10 ((t.text.drop sign).take whole)
      .ok (.int (if sign = 1 then -(n : Int) else n), t.drop length)
    else .ok (.real (t.text.take length), t.drop length)

/-- The values that are written as a name. -/
def names : List (Text × Json) := [
  ("null", .null), ("true", .bool true), ("false", .bool false), ("NaN", .real "NaN"),
  ("Infinity", .real "Infinity"), ("-Infinity", .real "-Infinity")]

/-- Reads a value that is neither string, array nor object. -/
def readScalar (t : Tail) : Except ReadError (Json × Tail) :=
  match names.find? fun (name, _) => name.isPrefixOf t.text with
  | some (name, v) => .ok (v, t.drop name.length)
  | none => readNumber t

mutual

/-- Reads the value at the front of a tail. -/
def readValue : (fuel : Nat) → Tail → Except ReadError (Json × Tail)
  | 0, t => t.fail .value
  | fuel + 1, t =>
    match t.text with
    | [] => t.fail .value
    | c :: _ =>
      if c = '"' then do
        let (s, t) ← readString t.place t.text.length (t.drop 1)
        pure (.string s, t)
      else if c = '[' then
        let t := (t.drop 1).skipBlanks
        match t.text with
        | d :: _ =>
          if d = ']' then .ok (.array [], t.drop 1)
          else do
            let (items, t) ← readItems fuel t
            pure (.array items, t)
        | [] => t.fail .value
      else if c = '{' then
        let t := (t.drop 1).skipBlanks
        match t.text with
        | d :: _ =>
          if d = '}' then .ok (.object [], t.drop 1)
          else do
            let (members, t) ← readMembers fuel t
            pure (.object members, t)
        | [] => t.fail .name
      else readScalar t

/-- Reads the items of an array up to its end. -/
def readItems : (fuel : Nat) → Tail → Except ReadError (List Json × Tail)
  | 0, t => t.fail .value
  | fuel + 1, t => do
    let (v, t) ← readValue fuel t
    let t := t.skipBlanks
    match t.text with
    | c :: _ =>
      if c = ']' then pure ([v], t.drop 1)
      else if c = ',' then do
        let (rest, t) ← readItems fuel (t.drop 1).skipBlanks
        pure (v :: rest, t)
      else t.fail .comma
    | [] => t.fail .comma

/-- Reads the members of an object up to its end. -/
def readMembers : (fuel : Nat) → Tail → Except ReadError (List (Text × Json) × Tail)
  | 0, t => t.fail .name
  | fuel + 1, t =>
    match t.text with
    | q :: _ =>
      if q = '"' then do
        let (key, t) ← readString t.place t.text.length (t.drop 1)
        let t := t.skipBlanks
        match t.text with
        | c :: _ =>
          if c = ':' then do
            let (v, t) ← readValue fuel (t.drop 1).skipBlanks
            let t := t.skipBlanks
            match t.text with
            | d :: _ =>
              if d = '}' then pure ([(key, v)], t.drop 1)
              else if d = ',' then do
                let (rest, t) ← readMembers fuel (t.drop 1).skipBlanks
                pure ((key, v) :: rest, t)
              else t.fail .comma
            | [] => t.fail .comma
          else t.fail .colon
        | [] => t.fail .colon
      else t.fail .name
    | [] => t.fail .name

end

/-- The value that a text holds. -/
def read (source : Text) : Except ReadError Json :=
  if source.head? = some ⟨0xFEFF⟩ then .error ⟨.byteOrderMark, 0⟩
  else do
    let (v, t) ← readValue (2 * source.length + 2) (Tail.skipBlanks ⟨0, source⟩)
    let t := t.skipBlanks
    if t.text.isEmpty then pure v else t.fail .extraData

end LogHarvest.Json
