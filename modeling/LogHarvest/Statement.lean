import LogHarvest.Json.Record
import LogHarvest.LogLine
import LogHarvest.Pattern.Basic

/-!
# Log statements and their records

A log statement is a pattern with the level it is logged at and the class that logs it. Its
record is one line of a pattern file: level, class and pattern text between bars.
-/

namespace LogHarvest

/-- A log statement of some class. -/
structure Statement where
  level : Text
  clazz : Text
  pattern : Pattern

namespace Statement

/-- The class that owns a call whose owner is not known. -/
def defaultClass : Text :=
  Text.ofChars ['D', 'e', 'f', 'a', 'u', 'l', 't', '-', 'C', 'l', 'a', 's', 's']

/-- The line of a pattern file that says the statement. -/
def toRecord (s : Statement) : Text := Text.join [columnBar] [s.level, s.clazz, s.pattern.source]

/-- Reads a line of a pattern file. A line with any other number of fields than three says no
statement. -/
def ofRecord? (line : Text) : Except Pattern.Refusal (Option Statement) :=
  match Text.splitOn columnBar line.dropLineEnd with
  | [level, clazz, source] => (Pattern.read source).map fun p => some ⟨level, clazz, p⟩
  | _ => .ok none

/-- The pattern text of a line of a pattern file, empty if the line says no statement. -/
def recordSource (line : Text) : Text :=
  match Text.splitOn columnBar line.dropLineEnd with
  | [_, _, source] => source
  | _ => []

/-! ### As JSON -/

/-- The fields of a statement in JSON. -/
def fields : List Json.Field :=
  [⟨"level", .text, none⟩, ⟨"clazz", .text, none⟩, ⟨"pattern", .text, none⟩]

/-- Why a text holds no statement. -/
inductive JsonFault where
  | record (source : Text) (e : Json.RecordError)
  | refused (source : Text) (r : Pattern.Refusal)

def toJson (s : Statement) : Json :=
  .object [("level", .string s.level), ("clazz", .string s.clazz),
    ("pattern", .string s.pattern.source)]

/-- Reads a statement from the text of a JSON object. -/
def ofJson? (text : Text) : Except JsonFault Statement :=
  match Json.readRecord fields text with
  | .error e => .error (.record text e)
  | .ok record =>
    let part (name : Text) : Text := (Json.textOf record name).getD "None"
    match Pattern.read (part "pattern") with
    | .error r => .error (.refused (part "pattern") r)
    | .ok p => .ok ⟨part "level", part "clazz", p⟩

end Statement

end LogHarvest
