import LogHarvest.Text.Quoted

/-!
# JSON values and their text

Objects keep their members in order. The text of a value is pure ASCII on one line, with a
blank after each comma and colon; a code point beyond the basic plane is written as its two
surrogates.
-/

namespace LogHarvest

open Text (ofString)

/-- A JSON value. A number with a fraction or an exponent is kept as it was written. -/
inductive Json where
  | null
  | bool (b : Bool)
  | int (n : Int)
  | real (literal : Text)
  | string (t : Text)
  | array (items : List Json)
  | object (members : List (Text × Json))

namespace Json

/-- One sixteen-bit unit as an escape. -/
def escapeUnit (n : Nat) : Text := ('\\' : Code) :: ('u' : Code) :: Text.Quoted.hex 4 n

/-- One code inside a string. -/
def escape (c : Code) : Text :=
  if c = '"' ∨ c = '\\' then ['\\', c]
  else if c = '\n' then ['\\', 'n']
  else if c = '\r' then ['\\', 'r']
  else if c = '\t' then ['\\', 't']
  else if c.val = 12 then ['\\', 'f']
  else if c.val = 8 then ['\\', 'b']
  else if 32 ≤ c.val ∧ c.val < 127 then [c]
  else if c.val < 0x10000 then escapeUnit c.val
  else escapeUnit (0xD800 + (c.val - 0x10000) / 1024) ++
    escapeUnit (0xDC00 + (c.val - 0x10000) % 1024)

/-- A text between double quotes. -/
def quote (t : Text) : Text := ('"' : Code) :: t.flatMap escape ++ [('"' : Code)]

mutual

/-- The text of a value. -/
def toText : Json → Text
  | .null => ofString "null"
  | .bool b => ofString (if b then "true" else "false")
  | .int n => Text.ofInt n
  | .real literal => literal
  | .string t => quote t
  | .array items => ('[' : Code) :: itemsText items ++ [(']' : Code)]
  | .object members => ('{' : Code) :: membersText members ++ [('}' : Code)]

def itemsText : List Json → Text
  | [] => []
  | [v] => v.toText
  | v :: rest => v.toText ++ ofString ", " ++ itemsText rest

def membersText : List (Text × Json) → Text
  | [] => []
  | [(key, v)] => quote key ++ ofString ": " ++ v.toText
  | (key, v) :: rest => quote key ++ ofString ": " ++ v.toText ++ ofString ", " ++ membersText rest

end

/-- The value of the last member with a key. -/
def member? (members : List (Text × Json)) (key : Text) : Option Json :=
  (members.reverse.find? fun m => m.1 == key).map Prod.snd

/-- The value of an optional text. -/
def ofText? : Option Text → Json
  | none => .null
  | some t => .string t

end Json

end LogHarvest
