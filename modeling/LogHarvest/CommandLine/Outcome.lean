import LogHarvest.CommandLine.Arguments
import LogHarvest.CommandLine.HelpPage
import LogHarvest.Notice

/-!
# What comes of a command

A command prints its results and reports, apart from them, what happened on the way. It ends
well, or it was misused, or it was stopped by a fault.
-/

namespace LogHarvest.CommandLine

/-- How a command ends. The faults that can stop it are its own. -/
inductive Ending (φ : Type) where
  | done
  | misused
  | stopped (fault : φ)

/-- The number by which an ending is known outside. -/
def Ending.exitCode {φ : Type} : Ending φ → Nat
  | .done => 0
  | .stopped _ => 1
  | .misused => 2

/-- The fault that stopped a command. -/
def Ending.fault? {φ : Type} : Ending φ → Option φ
  | .stopped fault => some fault
  | _ => none

/-- What comes of a command. -/
structure Outcome (φ : Type) where
  printed : Text
  reported : Text
  ending : Ending φ

/-- What arguments ask a command for: its help page, or a hint on how to call it since there are
too few of them, or the work that it is there for. -/
inductive Request (α : Type) where
  | help
  | hint
  | work (job : α)

/-- The notices that are shown, as lines: all of them or the warnings alone. -/
def shownNotices (verbose : Bool) (notices : List Notice) : Text :=
  Text.unlines ((notices.filter fun n => verbose || n.isWarning).map Notice.toText)

/-- An outcome of a command that has nothing to report. -/
def Outcome.saying {φ : Type} (text : Text) : Outcome φ := ⟨text, [], .done⟩

/-- The outcome of a misuse. -/
def Command.refuse {κ φ : Type} (c : Command κ) (misuse : Misuse) : Outcome φ :=
  ⟨[], c.complaint misuse, .misused⟩

end LogHarvest.CommandLine
