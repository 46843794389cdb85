import LogHarvest.Text.Code

/-!
# Runs of names

The names of neighbouring code points mostly begin alike, so a run of names writes out what is new
in each and counts what it keeps of the one before. What is counted are the pieces of a name, which
end with a blank or a hyphen.
-/

namespace LogHarvest.Text.Table

/-- The names of the code points from `first` on. Each is written as a small letter that says how
many pieces of the name before it it keeps, `a` for none of them, and then what follows these. A
dot stands for a code point without a name. -/
structure NameRun where
  first : Nat
  names : List String

/-- The pieces of a name, each with the blank or hyphen that ends it. -/
def namePieces : Text → List Text
  | [] => []
  | c :: rest =>
    if c = ' ' ∨ c = '-' then [c] :: namePieces rest
    else match namePieces rest with
      | [] => [[c]]
      | piece :: pieces => (c :: piece) :: pieces

namespace NameRun

/-- The names of a run as they are written: the number of pieces that are kept, and the new part. -/
def entries (r : NameRun) : List (Option (Nat × Text)) :=
  let step (c : Code) (read : Text × List (Option (Nat × Text))) :
      Text × List (Option (Nat × Text)) :=
    if c = '.' then ([], none :: read.2)
    else if c.isAsciiLower then ([], some (c.val - 97, read.1) :: read.2)
    else (c :: read.1, read.2)
  ((r.names.flatMap ofString).foldr step ([], [])).2

/-- The names that entries stand for, given the pieces of the name before them. -/
def spell : List Text → List (Option (Nat × Text)) → List (Option Text)
  | _, [] => []
  | last, none :: rest => none :: spell last rest
  | last, some (kept, new) :: rest =>
    let pieces := last.take kept ++ namePieces new
    some pieces.flatten :: spell pieces rest

/-- The code point that a run gives a name to. -/
def codeOf? (r : NameRun) (name : Text) : Option Code :=
  ((spell [] r.entries).findIdx? (· = some name)).map fun place => ⟨r.first + place⟩

end NameRun

example : NameRun.codeOf? ⟨65, ["aLETTER AbB.", "bD WITH HOOKcWITHOUT"]⟩ "LETTER D WITHOUT" =
    some ⟨69⟩ := by decide +kernel

end LogHarvest.Text.Table
