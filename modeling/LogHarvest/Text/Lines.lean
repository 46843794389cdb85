import LogHarvest.Text.Code

/-!
# Lines

A line of a file ends with a line feed, a carriage return or the two together, and nothing
else. The last line need not be ended, and a file that ends with a terminator has no empty
line after it.
-/

namespace LogHarvest.Text

/-- The rest of a text with every line terminator written as a line feed, given whether a
carriage return has just been read. -/
def normalizeAfter : (returned : Bool) → Text → Text
  | _, [] => []
  | returned, c :: rest =>
    if c = '\r' then ('\n' : Code) :: normalizeAfter true rest
    else if returned ∧ c = '\n' then normalizeAfter false rest
    else c :: normalizeAfter false rest

/-- The text with every line terminator written as a line feed. -/
def normalizeNewlines (t : Text) : Text := normalizeAfter false t

/-- The lines of a text, without their terminators. -/
def lines (t : Text) : List Text :=
  let pieces := splitOn '\n' (normalizeNewlines t)
  if pieces.getLast? = some [] then pieces.dropLast else pieces

/-- The lines of a text that is known to go on: the last piece is not complete, and neither is
a line whose carriage return a line feed might still follow. -/
def completeLines (t : Text) : List Text :=
  let t := if t.getLast? = some ('\r' : Code) then t.dropLast else t
  (splitOn '\n' (normalizeNewlines t)).dropLast

end LogHarvest.Text
