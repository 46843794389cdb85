import LogHarvest.CommandLine.Misuse
import LogHarvest.Text.Style

/-!
# Commands and their options

A command takes options and paths. An option has short names, a dash and a letter, and long
ones, two dashes and a word. A flag stands for itself; other options take a value.
-/

namespace LogHarvest.CommandLine

open Text (ofString)

/-- Lines as a command prints them where there is no terminal. -/
def echoed (lines : List Text) : Text := Text.unlines (lines.map Text.unstyled)

/-- An option. Each has a key, by which its command asks for it. -/
structure Opt (κ : Type) where
  key : κ
  names : List Text
  /-- The names that turn a flag off. -/
  offNames : List Text
  /-- What stands for the value on the help page, if the option takes one. -/
  value : Option Text
  help : List Text

/-- A command. -/
structure Command (κ : Type) where
  name : Text
  paths : List PathArgument
  about : List Text
  options : List (Opt κ)

/-- One use of an option. -/
inductive Use (κ : Type) where
  | flag (key : κ) (on : Bool)
  | value (key : κ) (text : Text)

/-- What the arguments of a command give: uses of options, and paths. -/
structure Given (κ : Type) where
  uses : List (Use κ)
  paths : List Text

namespace Given

variable {κ : Type}

/-- What is given when uses of options come first. -/
def after (uses : List (Use κ)) (g : Given κ) : Given κ := { g with uses := uses ++ g.uses }

/-- What is given when a path comes first. -/
def afterPath (path : Text) (g : Given κ) : Given κ := { g with paths := path :: g.paths }

variable [DecidableEq κ]

/-- Whether a flag is on: the last use of it tells. -/
def isOn (g : Given κ) (key : κ) : Bool :=
  g.uses.foldl (fun before use =>
    match use with
    | .flag k on => if k = key then on else before
    | .value _ _ => before) false

/-- The values given to an option, in order. -/
def values (g : Given κ) (key : κ) : List Text :=
  g.uses.filterMap fun use =>
    match use with
    | .flag _ _ => none
    | .value k text => if k = key then some text else none

end Given

namespace Command

variable {κ : Type}

/-- A dash. -/
def dash : Code := ('-' : Code)

/-- Two dashes, which start a long name. -/
def twoDashes : Text := [dash, dash]

/-- Whether a name is a long one. -/
def isLong (name : Text) : Bool := name.take 2 = twoDashes

/-- The option with a name, and whether the name turns it on. -/
def named? (c : Command κ) (name : Text) : Option (Opt κ × Bool) :=
  c.options.findSome? fun o =>
    if o.names.contains name then some (o, true)
    else if o.offNames.contains name then some (o, false)
    else none

/-- The long names of a command's options. -/
def longNames (c : Command κ) : List Text :=
  (c.options.flatMap fun o => o.names ++ o.offNames).filter isLong

/-- How the command is called. -/
def usage (c : Command κ) : Text :=
  Text.join [(' ' : Code)]
    ([ofString "Usage:", c.name, ofString "[OPTIONS]"] ++ c.paths.map PathArgument.shown)

/-- What is said about a misuse of the command. How the command is called comes first, unless
the matter is a value. -/
def complaint (c : Command κ) (misuse : Misuse) : Text :=
  let usage := if misuse.isAboutValue then [] else [
    c.usage, ofString "Try '" ++ c.name ++ ofString " --help' for help.", []]
  echoed (usage ++ [ofString "Error: " ++ misuse.message])

end Command

end LogHarvest.CommandLine
