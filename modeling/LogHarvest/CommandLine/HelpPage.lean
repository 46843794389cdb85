import LogHarvest.CommandLine.Options

/-!
# Help pages

A help page says how a command is called, what it does, and what its options are for. The
options stand in two columns; the second starts two blanks after the longest entry of the
first.
-/

namespace LogHarvest.CommandLine

open Text (ofString)

/-- Some blanks. -/
def blanks (count : Nat) : Text := List.replicate count (' ' : Code)

/-- A line set in from the margin. An empty line stays empty. -/
def indented (line : Text) : Text := if line.isEmpty then [] else blanks 2 ++ line

/-- How an option is called. -/
def Opt.label {κ : Type} (o : Opt κ) : Text :=
  let on := Text.join (ofString ", ") o.names
  let off := if o.offNames.isEmpty then []
    else ofString " / " ++ Text.join (ofString ", ") o.offNames
  on ++ off ++ (o.value.map (ofString " " ++ ·)).getD []

/-- The lines of an option, with a first column of the given width. -/
def Opt.lines {κ : Type} (o : Opt κ) (width : Nat) : List Text :=
  match o.help with
  | [] => [o.label]
  | line :: more =>
    (o.label ++ blanks (width - o.label.length) ++ line) :: more.map (blanks width ++ ·)

/-- The help page of a command. -/
def Command.helpPage {κ : Type} (c : Command κ) : Text :=
  let width := (c.options.map fun o => o.label.length).foldl Nat.max 0 + 2
  Text.unlines <|
    [c.usage, []] ++ c.about.map indented ++ [[], ofString "Options:"] ++
    (c.options.flatMap fun o => o.lines width).map indented

end LogHarvest.CommandLine
