import LogHarvest.Text.Quoted

/-!
# Paths

A path is a text of names between slashes. Single dots and doubled slashes mean nothing; two
dots lead to the directory above.
-/

namespace LogHarvest.Path

/-- The directory that a path starts from when it names none. -/
def dot : Text := Text.ofChars ['.']

/-- The directory above. -/
def dotDot : Text := Text.ofChars ['.', '.']

/-- The names of a path. -/
def parts (path : Text) : List Text :=
  (Text.splitOn '/' path).filter fun part => !part.isEmpty && part ≠ dot

/-- A path that starts at the top of all directories. -/
def isAbsolute (path : Text) : Bool := path.head? = some ('/' : Code)

/-- Names as a path below some directory. -/
def ofParts (parts : List Text) : Text := Text.join ['/'] parts

/-- A path without what means nothing in it. -/
def tidy (path : Text) : Text :=
  let body := ofParts (parts path)
  if isAbsolute path then ('/' : Code) :: body
  else if body.isEmpty then dot
  else body

/-- One step from a directory, given by the names that lead to it. -/
def step (place : List Text) (part : Text) : List Text :=
  if part.isEmpty || part = dot then place
  else if part = dotDot then place.dropLast
  else place ++ [part]

/-- Takes the steps of some parts one after the other. -/
def follow (place : List Text) (parts : List Text) : List Text := parts.foldl step place

end LogHarvest.Path
