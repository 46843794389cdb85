import LogHarvest.Text.Code

/-!
# Levels

The five levels of a log call, from the least grave to the gravest. A level's name is also the
name of the method that logs at it.
-/

namespace LogHarvest

inductive Level where
  | trace
  | debug
  | info
  | warn
  | error
deriving DecidableEq

namespace Level

/-- The levels, least grave first. -/
def all : List Level := [trace, debug, info, warn, error]

def name : Level → Text
  | trace => Text.ofChars ['t', 'r', 'a', 'c', 'e']
  | debug => Text.ofChars ['d', 'e', 'b', 'u', 'g']
  | info => Text.ofChars ['i', 'n', 'f', 'o']
  | warn => Text.ofChars ['w', 'a', 'r', 'n']
  | error => Text.ofChars ['e', 'r', 'r', 'o', 'r']

/-- The names of the levels, least grave first. -/
def names : List Text := all.map name

end Level

end LogHarvest
