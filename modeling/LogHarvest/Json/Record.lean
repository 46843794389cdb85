import LogHarvest.Json.Reader
import LogHarvest.Text.Naming

/-!
# Records in JSON

A record is a JSON object with known fields. Reading one takes the fields in their order: a
field that is absent gets its default, a value of another type is converted where that can be
done, members that name no field are ignored, and a null stands for itself wherever it is.
-/

namespace LogHarvest.Json

open Text (ofString)

/-- What a field holds. -/
inductive FieldType where
  | text
  | texts
  | number
deriving DecidableEq

/-- A field of a record. -/
structure Field where
  name : Text
  type : FieldType
  default : Option Json

/-- Why a text holds no record. -/
inductive RecordError where
  | unreadable (e : ReadError)
  | missing (name : Text)
  | notObject (kind : Text)
  | notNumber (t : Text)
  | wrongType (kind : Text)

/-- What is said about a text that holds no record. -/
def RecordError.message (source : Text) : RecordError → Text
  | .unreadable e => e.message source
  | .missing name => Text.Quoted.encode name
  | .notObject kind => Text.Quoted.encode kind ++ ofString " object has no attribute 'items'"
  | .notNumber t =>
    ofString "invalid literal for int() with base 10: " ++ Text.Quoted.encode t
  | .wrongType kind => Text.Quoted.encode kind ++ ofString " object is not iterable"

/-- The kind of a value, as a message names it. -/
def kindName : Json → Text
  | .null => "NoneType"
  | .bool _ => "bool"
  | .int _ => "int"
  | .real _ => "float"
  | .string _ => "str"
  | .array _ => "list"
  | .object _ => "dict"

mutual

/-- A value inside another one, as a message shows it. -/
def shown : Json → Text
  | .null => ofString "None"
  | .bool b => ofString (if b then "True" else "False")
  | .int n => Text.ofInt n
  | .real literal => literal
  | .string t => Text.Quoted.encode t
  | .array items => ('[' : Code) :: Text.join (ofString ", ") (shownItems items) ++ [(']' : Code)]
  | .object members =>
    ('{' : Code) :: Text.join (ofString ", ") (shownMembers members) ++ [('}' : Code)]

def shownItems : List Json → List Text
  | [] => []
  | v :: rest => v.shown :: shownItems rest

def shownMembers : List (Text × Json) → List Text
  | [] => []
  | (key, v) :: rest =>
    (Text.Quoted.encode key ++ ofString ": " ++ v.shown) :: shownMembers rest

end

/-- A value as a text: a string is itself. -/
def asText : Json → Text
  | .string t => t
  | v => v.shown

/-- A value as an integer, where it has one: the fraction of a number is dropped. -/
def asNumber : Json → Except RecordError Json
  | .string t =>
    match Text.toInt? t with
    | some n => .ok (.int n)
    | none => .error (.notNumber t)
  | .real literal =>
    match Text.toInt? (literal.takeWhile fun c => c.isAsciiDigit || c = '-') with
    | some n => .ok (.int n)
    | none => .error (.notNumber literal)
  | .array _ => .error (.notNumber "[]")
  | .object _ => .error (.notNumber (Text.ofChars ['{', '}']))
  | v => .ok v

/-- A value as a list of texts: that of an array's items, an object's keys, or single codes. -/
def asTexts : Json → Except RecordError Json
  | .array items => .ok (.array (items.map fun v => .string v.asText))
  | .object members => .ok (.array (members.map fun m => .string m.1))
  | .string t => .ok (.array (t.map fun c => .string [c]))
  | v => .error (.wrongType v.kindName)

/-- A value as a field holds it. A null stays. -/
def convert (type : FieldType) (v : Json) : Except RecordError Json :=
  match v with
  | .null => .ok .null
  | v =>
    match type with
    | .text => .ok (.string v.asText)
    | .texts => v.asTexts
    | .number => v.asNumber

/-- The value of one field among the members of an object. -/
def fieldValue (members : List (Text × Json)) (f : Field) : Except RecordError Json :=
  match member? members f.name with
  | some v => convert f.type v
  | none =>
    match f.default with
    | some v => .ok v
    | none => .error (.missing f.name)

/-- The fields of a record in their order. -/
def recordOf (fields : List Field) (v : Json) : Except RecordError (List (Text × Json)) :=
  match v with
  | .object members => fields.mapM fun f => (fieldValue members f).map fun v => (f.name, v)
  | v => .error (.notObject v.kindName)

/-- The record that a text holds. -/
def readRecord (fields : List Field) (source : Text) :
    Except RecordError (List (Text × Json)) :=
  match read source with
  | .ok v => recordOf fields v
  | .error e => .error (.unreadable e)

/-- A text field of a record that has been read. -/
def textOf (record : List (Text × Json)) (name : Text) : Option Text :=
  match member? record name with
  | some (.string t) => some t
  | _ => none

/-- A number field of a record that has been read. -/
def numberOf (record : List (Text × Json)) (name : Text) : Int :=
  match member? record name with
  | some (.int n) => n
  | some (.bool true) => 1
  | _ => 0

/-- A field of texts of a record that has been read. -/
def textsOf (record : List (Text × Json)) (name : Text) : Option (List Text) :=
  match member? record name with
  | some (.array items) => some (items.map asText)
  | _ => none

end LogHarvest.Json
