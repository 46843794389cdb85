import LogHarvest.Json.Record
import LogHarvest.Number.Dyadic

/-!
# Tallies

A tally counts the lines of logs: those that are no log line, those that no statement matched
and those that one did.
-/

namespace LogHarvest

/-- The counts of the lines read so far. -/
structure Tally where
  lines : Int
  malformed : Int
  unmatched : Int
  matched : Int
deriving DecidableEq

namespace Tally

def zero : Tally := ⟨0, 0, 0, 0⟩

def addMalformed (t : Tally) : Tally :=
  { t with lines := t.lines + 1, malformed := t.malformed + 1 }

def addUnmatched (t : Tally) : Tally :=
  { t with lines := t.lines + 1, unmatched := t.unmatched + 1 }

def addMatched (t : Tally) : Tally := { t with lines := t.lines + 1, matched := t.matched + 1 }

/-- The lines that are log lines. -/
def logLines (t : Tally) : Int := t.lines - t.malformed

/-- The share of the log lines that were matched, in percent; zero if there are none. -/
def matchRate (t : Tally) : Dyadic :=
  if t.logLines > 0 then (Dyadic.ofQuotient t.matched t.logLines.toNat).scale 100
  else Dyadic.zero

/-- The fields of a tally in JSON. -/
def fields : List Json.Field := [
  ⟨"lines", .number, some (.int 0)⟩, ⟨"malformed", .number, some (.int 0)⟩,
  ⟨"unmatched", .number, some (.int 0)⟩, ⟨"matched", .number, some (.int 0)⟩]

def toJson (t : Tally) : Json :=
  .object [("lines", .int t.lines), ("malformed", .int t.malformed),
    ("unmatched", .int t.unmatched), ("matched", .int t.matched)]

/-- The tally of a record's fields. -/
def ofRecord (record : List (Text × Json)) : Tally :=
  ⟨Json.numberOf record "lines", Json.numberOf record "malformed",
    Json.numberOf record "unmatched", Json.numberOf record "matched"⟩

end Tally

end LogHarvest
