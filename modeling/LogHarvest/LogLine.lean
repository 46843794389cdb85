import LogHarvest.Text.Class
import LogHarvest.Text.Lower

/-!
# Lines of a log

A log line has six columns between bars: when, how grave, in which thread, in which class,
from which bundle, and the message. Blanks around a column do not count, and the level is
read in lower case. A line with any other number of columns is no log line, which is not an
error: such lines are the continuation of the one before them.
-/

namespace LogHarvest

/-- The separator of the columns of a log line and of the fields of a record. -/
def columnBar : Code := '|'

/-- The columns of a log line. -/
structure LogLine where
  timestamp : Text
  level : Text
  thread : Text
  clazz : Text
  origin : Text
  message : Text
deriving DecidableEq

namespace LogLine

/-- Reads a line, with or without its terminator. -/
def ofText? (line : Text) : Option LogLine :=
  match Text.splitOn columnBar line.dropLineEnd with
  | [timestamp, level, thread, clazz, origin, message] =>
    some ⟨timestamp.trim, level.trim.lower, thread.trim, clazz.trim, origin.trim, message.trim⟩
  | _ => none

/-- The columns in order. -/
def columns (l : LogLine) : List Text :=
  [l.timestamp, l.level, l.thread, l.clazz, l.origin, l.message]

/-- The columns between bars, each bar between two spaces. -/
def toText (l : LogLine) : Text := Text.join [' ', columnBar, ' '] l.columns

end LogLine

end LogHarvest
