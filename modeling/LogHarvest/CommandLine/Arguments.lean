import LogHarvest.CommandLine.Options

/-!
# Reading arguments

The value of an option follows its name: within the same argument if there is room, as the
next argument otherwise. Short names of flags may share one dash. Options and paths may stand
in any order, and after two dashes alone everything is a path.
-/

namespace LogHarvest.CommandLine.Command

variable {κ : Type}

/-- What an argument with names of options gives: uses, and perhaps an option that takes the
next argument for its value, with the name it was called by. -/
structure Named (κ : Type) where
  uses : List (Use κ)
  open? : Option (κ × Text)

/-- Reads letters after one dash. -/
def readLetters (c : Command κ) : Text → Except Misuse (Named κ)
  | [] => .ok ⟨[], none⟩
  | letter :: rest =>
    let name := [dash, letter]
    match c.named? name with
    | none => .error (.unknownOption name [])
    | some (o, on) =>
      if o.value.isNone then
        (c.readLetters rest).map fun n => { n with uses := .flag o.key on :: n.uses }
      else if rest.isEmpty then .ok ⟨[], some (o.key, name)⟩
      else .ok ⟨[.value o.key rest], none⟩

/-- The sign between a long name and its value. -/
def equalsSign : Code := ('=' : Code)

/-- Reads a long name and the value that an equals sign joins to it, if there is one. -/
def readLong (c : Command κ) (arg : Text) : Except Misuse (Named κ) :=
  let name := arg.takeWhile (· ≠ equalsSign)
  let joined := arg.dropWhile (· ≠ equalsSign)
  match c.named? name with
  | none => .error (.unknownOption name (Text.wordsLike name c.longNames))
  | some (o, on) =>
    match o.value, joined with
    | none, [] => .ok ⟨[.flag o.key on], none⟩
    | none, _ :: _ => .error (.valueUnwanted name)
    | some _, [] => .ok ⟨[], some (o.key, name)⟩
    | some _, _ :: value => .ok ⟨[.value o.key value], none⟩

/-- Reads an argument that starts with a dash. -/
def readNamed (c : Command κ) (arg : Text) : Except Misuse (Named κ) :=
  if isLong arg then c.readLong arg else c.readLetters (arg.drop 1)

/-- Whether an argument names options. A dash alone does not. -/
def namesOptions (arg : Text) : Bool := arg.head? = some dash && arg.length > 1

/-- Reads arguments in order, up to the first that misuses the command. -/
def read (c : Command κ) : List Text → Except Misuse (Given κ)
  | [] => .ok ⟨[], []⟩
  | arg :: rest =>
    if arg = twoDashes then .ok ⟨[], rest⟩
    else if namesOptions arg then
      match c.readNamed arg with
      | .error misuse => .error misuse
      | .ok ⟨uses, none⟩ => (c.read rest).map (Given.after uses)
      | .ok ⟨uses, some (key, name)⟩ =>
        match rest with
        | [] => .error (.valueMissing name)
        | value :: rest => (c.read rest).map (Given.after (uses ++ [.value key value]))
    else (c.read rest).map (Given.afterPath arg)

/-- Checks the paths given to a command, and that they are not too many. -/
def checkPaths (c : Command κ) (tree : FileTree) (given : List Text) : Except Misuse Unit := do
  (c.paths.zip given).forM fun p => p.1.check tree p.2
  match given.drop c.paths.length with
  | [] => pure ()
  | extra => throw (.extraArguments extra)

end LogHarvest.CommandLine.Command
