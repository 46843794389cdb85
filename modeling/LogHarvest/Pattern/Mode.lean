import LogHarvest.Pattern.Expr

/-!
# Modes

A pattern may switch modes with letters: for all of itself at its very start, or for one group.
-/

namespace LogHarvest.Pattern

/-- The letters that switch a mode. -/
inductive ModeLetter where
  | ascii
  | ignoreCase
  | locale
  | multiLine
  | dotAll
  | template
  | unicode
  | verbose
deriving DecidableEq

namespace ModeLetter

def ofCode? (c : Code) : Option ModeLetter :=
  if c = 'a' then some .ascii
  else if c = 'i' then some .ignoreCase
  else if c = 'L' then some .locale
  else if c = 'm' then some .multiLine
  else if c = 's' then some .dotAll
  else if c = 't' then some .template
  else if c = 'u' then some .unicode
  else if c = 'x' then some .verbose
  else none

/-- The letters of which a pattern can have one only: they say by whose rules it matches. -/
def isType : ModeLetter → Bool
  | .ascii | .locale | .unicode => true
  | _ => false

/-- The letters that only a whole pattern can switch. -/
def isGlobal : ModeLetter → Bool
  | .template => true
  | _ => false

end ModeLetter

/-- The modes in force at some place of a pattern. Matching goes by the rules of all scripts
unless ASCII rules are asked for; `unicode` only records that the others were asked for. -/
structure Modes where
  ascii : Bool
  unicode : Bool
  ignoreCase : Bool
  multiLine : Bool
  dotAll : Bool
  verbose : Bool
  template : Bool

namespace Modes

/-- No mode has been switched on. -/
def none : Modes := ⟨false, false, false, false, false, false, false⟩

def set (m : Modes) (on : Bool) : ModeLetter → Modes
  | .ascii => { m with ascii := on }
  | .ignoreCase => { m with ignoreCase := on }
  | .locale => m
  | .multiLine => { m with multiLine := on }
  | .dotAll => { m with dotAll := on }
  | .template => { m with template := on }
  | .unicode => { m with unicode := on }
  | .verbose => { m with verbose := on }

/-- The modes after switching on letters for the whole pattern. -/
def withGlobal (m : Modes) (letters : List ModeLetter) : Modes :=
  letters.foldl (fun m l => m.set true l) m

/-- The modes inside a group that switches letters on and off. A type letter replaces the one
in force. -/
def withScoped (m : Modes) (on off : List ModeLetter) : Modes :=
  let m := if on.any ModeLetter.isType then { m with ascii := false, unicode := false } else m
  off.foldl (fun m l => m.set false l) (m.withGlobal on)

/-- The rule by which letters are compared. -/
def fold (m : Modes) : Fold :=
  if m.ignoreCase then (if m.ascii then .ascii else .unicode) else .exact

end Modes

end LogHarvest.Pattern
