import LogHarvest.Json.Record
import LogHarvest.Store

/-!
# Readings

A reading is what the store has to say about one log message. The statements that serve the
class are tried in order, and the first whose pattern matches the whole message is taken, with
the texts of its groups. When there is no statement to try there is no reading; when none of
them matches, the reading holds the message alone.
-/

namespace LogHarvest

open Text (ofString)

/-- What was read from a log message. -/
structure Reading where
  message : Text
  clazz : Option Text
  pattern : Option Text
  captures : Option (List (Option Text))
  level : Option Text
deriving DecidableEq

namespace Reading

/-- The reading of a message that no statement matches. -/
def bare (message : Text) : Reading := ⟨message, none, none, none, none⟩

/-- Whether some statement matched. -/
def isMatched (r : Reading) : Bool := r.pattern.isSome

/-- The reading of a message by one statement, with the texts of the groups. A pattern without
groups has no captures. -/
def ofMatch (message : Text) (s : Statement) (groups : List (Option Text)) : Reading :=
  ⟨message, some s.clazz, some s.pattern.source,
    if s.pattern.groupCount > 0 then some groups else none, none⟩

/-- The reading by the first of some statements that matches. -/
def ofCandidates (message : Text) : List Statement → Reading
  | [] => bare message
  | s :: rest =>
    match s.pattern.fullMatch? message with
    | some groups => ofMatch message s groups
    | none => ofCandidates message rest

/-- The reading of a message of a class, if any statement serves the class. -/
def ofMessage? (store : Store) (message clazz : Text) : Option Reading :=
  match store.candidates clazz with
  | [] => none
  | candidates => some (ofCandidates message candidates)

/-! ### As text -/

/-- An optional text inside a message. -/
def shownText (t : Option Text) : Text := t.getD "None"

/-- Captures inside a message: the groups that took part are quoted. -/
def shownCaptures : Option (List (Option Text)) → Text
  | none => "None"
  | some groups =>
    ('[' : Code) :: Text.join (ofString ", ")
      (groups.map fun g => (g.map Text.Quoted.encode).getD "None") ++ [(']' : Code)]

/-- How a reading is shown. -/
def toText (r : Reading) : Text :=
  ofString "ParsedLog(log='" ++ r.message ++ ofString "', clazz='" ++ shownText r.clazz ++
    ofString "', pattern='" ++ shownText r.pattern ++ ofString "', captures=" ++
    shownCaptures r.captures ++ [(')' : Code)]

/-- What is reported about a reading that was matched. -/
def notice (r : Reading) : Notice :=
  .detail .matcher (ofString "Parsed log line is " ++ r.toText)

/-! ### As JSON -/

/-- The fields of a reading in JSON. -/
def fields : List Json.Field := [
  ⟨"raw_message", .text, none⟩, ⟨"matched_class", .text, some .null⟩,
  ⟨"matched_pattern", .text, some .null⟩, ⟨"captures", .texts, some .null⟩,
  ⟨"level", .text, some .null⟩]

def toJson (r : Reading) : Json :=
  .object [
    ("raw_message", .string r.message), ("matched_class", Json.ofText? r.clazz),
    ("matched_pattern", Json.ofText? r.pattern),
    ("captures", match r.captures with
      | none => .null
      | some groups => .array (groups.map Json.ofText?)),
    ("level", Json.ofText? r.level)]

/-- The reading of a record's fields. -/
def ofRecord (record : List (Text × Json)) : Reading :=
  ⟨shownText (Json.textOf record "raw_message"), Json.textOf record "matched_class",
    Json.textOf record "matched_pattern",
    (Json.textsOf record "captures").map (·.map some), Json.textOf record "level"⟩

/-- Reads a reading from the text of a JSON object. -/
def ofJson? (source : Text) : Except Json.RecordError Reading :=
  (Json.readRecord fields source).map ofRecord

end Reading

end LogHarvest
