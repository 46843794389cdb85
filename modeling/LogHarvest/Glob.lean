import LogHarvest.Text.Code

/-!
# Globs

A glob matches a whole text: a star stands for any codes at all, slashes included, a question
mark for one code, and a bracketed set for one code of the set. A bracket that is never closed
stands for itself.
-/

namespace LogHarvest

/-- A part of a glob. -/
inductive GlobPart where
  | star
  | any
  | literal (c : Code)
  | set (negated : Bool) (ranges : List (Code × Code))
deriving DecidableEq

abbrev Glob := List GlobPart

namespace Glob

/-- The place of the bracket that closes a set, after its opening one. An exclamation mark and
a bracket right after it do not close the set. -/
def setLength? (t : Text) : Option Nat :=
  let skip (c : Char) (n : Nat) : Nat := if (t.drop n).head? = some (c : Code) then n + 1 else n
  let start := skip ']' (skip '!' 0)
  ((t.drop start).findIdx? (· = (']' : Code))).map (start + ·)

/-- The place of the next hyphen from some place on. -/
def hyphenFrom? (t : Text) (start : Nat) : Option Nat :=
  ((t.drop start).findIdx? (· = ('-' : Code))).map (start + ·)

/-- Cuts the inside of a set at the hyphens that make ranges: one that neither comes first nor
follows too closely on another. -/
def chunksFrom (t : Text) : (fuel : Nat) → (start next : Nat) → List Text
  | 0, start, _ => [t.drop start]
  | fuel + 1, start, next =>
    match hyphenFrom? t next with
    | some k => (t.take k).drop start :: chunksFrom t fuel (k + 1) (k + 3)
    | none => [t.drop start]

/-- A hyphen that ends the inside of a set stands for itself. -/
def joinLast : List Text → List Text
  | [] => []
  | [chunk] => [chunk]
  | [chunk, last] => if last.isEmpty then [chunk ++ [('-' : Code)]] else [chunk, last]
  | chunk :: rest => chunk :: joinLast rest

/-- The chunks of the inside of a set. -/
def chunks (t : Text) : List Text :=
  if ('-' : Code) ∈ t then
    joinLast (chunksFrom t t.length 0 (if t.head? = some ('!' : Code) then 2 else 1))
  else [t]

/-- Removes the ranges that are empty, from the last one on: the codes on both sides of the
hyphen go with it. -/
def dropEmptyRanges : List Text → List Text
  | [] => []
  | chunk :: rest =>
    match dropEmptyRanges rest with
    | [] => [chunk]
    | next :: rest =>
      match chunk.getLast?, next.head? with
      | some a, some b =>
        if a.val > b.val then (chunk.dropLast ++ next.drop 1) :: rest else chunk :: next :: rest
      | _, _ => chunk :: next :: rest

/-- The codes of a chunk and the ranges between chunks. -/
def rangesOf : List Text → List (Code × Code)
  | [] => []
  | chunk :: rest =>
    let singles := chunk.map fun c => (c, c)
    match chunk.getLast?, rest.head?.bind List.head? with
    | some a, some b => singles ++ (a, b) :: rangesOf rest
    | _, _ => singles ++ rangesOf rest

/-- The part that the inside of a set says. -/
def setPart (t : Text) : GlobPart :=
  match dropEmptyRanges (chunks t) with
  | (c :: chunk) :: rest =>
    if c = '!' then .set true (rangesOf (chunk :: rest))
    else .set false (rangesOf ((c :: chunk) :: rest))
  | chunks => .set false (rangesOf chunks)

/-- Reads a glob after the next `skip` codes. -/
def readFrom : (skip : Nat) → Text → Glob
  | _, [] => []
  | skip + 1, _ :: rest => readFrom skip rest
  | 0, c :: rest =>
    if c = '*' then .star :: readFrom 0 rest
    else if c = '?' then .any :: readFrom 0 rest
    else if c = '[' then
      match setLength? rest with
      | some length => setPart (rest.take length) :: readFrom (length + 1) rest
      | none => .literal c :: readFrom 0 rest
    else .literal c :: readFrom 0 rest

/-- Reads a glob; every text is one. -/
def read (t : Text) : Glob := readFrom 0 t

/-- Whether a code is in one of some ranges. -/
def inRanges (ranges : List (Code × Code)) (c : Code) : Bool :=
  ranges.any fun r => r.1.val ≤ c.val && c.val ≤ r.2.val

/-- Whether some end of a text, the whole included, passes a test. -/
def anySuffix (p : Text → Bool) : Text → Bool
  | [] => p []
  | c :: rest => p (c :: rest) || anySuffix p rest

/-- Whether the first code of a text passes a test and the rest another. -/
def firstThen (test : Code → Bool) (p : Text → Bool) : Text → Bool
  | [] => false
  | c :: rest => test c && p rest

/-- Whether a glob matches a whole text. -/
def accepts : Glob → Text → Bool
  | [], t => t.isEmpty
  | .star :: rest, t => anySuffix (accepts rest) t
  | .any :: rest, t => firstThen (fun _ => true) (accepts rest) t
  | .literal c :: rest, t => firstThen (· = c) (accepts rest) t
  | .set negated ranges :: rest, t =>
    firstThen (fun c => inRanges ranges c != negated) (accepts rest) t

end Glob

end LogHarvest
