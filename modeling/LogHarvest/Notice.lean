import LogHarvest.Text.Code

/-!
# Notices

What the program reports while it works: a channel, how grave the notice is, and a message.
-/

namespace LogHarvest

/-- The parts of the program that report. -/
inductive Channel where
  | analyzer
  | store
  | matcher
  | logReader
deriving DecidableEq

/-- The name under which a part reports. -/
def Channel.name : Channel → Text
  | .analyzer => "logminer.analyzer"
  | .store => "logminer.repository"
  | .matcher => "logminer.matcher"
  | .logReader => "logminer.log_parser"

/-- A report: a detail of the work, or something that went wrong with a part of it. -/
structure Notice where
  channel : Channel
  isWarning : Bool
  message : Text

namespace Notice

def detail (channel : Channel) (message : Text) : Notice := ⟨channel, false, message⟩

def warning (channel : Channel) (message : Text) : Notice := ⟨channel, true, message⟩

/-- A notice as a line without its terminator. -/
def toText (n : Notice) : Text :=
  Text.ofString (if n.isWarning then "WARNING " else "DEBUG ") ++ n.channel.name ++
    Text.ofString ": " ++ n.message

end Notice

end LogHarvest
