import LogHarvest.CommandLine.Analyze
import LogHarvest.CommandLine.Parse

/-!
# The program

The first argument names the command. What stands at the paths among the others is read, the
command is run on it, and what it prints, reports and writes is put where it belongs.
-/

namespace LogHarvest

/-- The characters of a text; codes that are none are left out. -/
def Text.printable (t : Text) : String := String.ofList (t.filterMap Code.toChar?)

/-- What stands at a path below a directory. -/
partial def readNode (dir path : String) : IO FileNode := do
  let entry := (← IO.currentDir) / dir / path
  if ← entry.isDir then
    let names := (← entry.readDir).map fun e => e.fileName
    let entries ← names.toList.mapM fun name => do
      pure (Text.ofString name, ← readNode (entry.toString) name)
    pure (.dir entries)
  else pure (.file (← IO.FS.readBinFile entry).toList)

/-- The directory in which the program runs, with the directories that lead to it. -/
def workTree : IO FileTree := do
  let work := Path.parts (Text.ofString (← IO.currentDir).toString)
  pure (FileTree.plant ⟨.dir [], [], work⟩ Path.dot (.dir []))

/-- Adds to a tree what stands at a path, or at least the directory in which the path would
stand. -/
def addPath (tree : FileTree) (path : String) : IO FileTree := do
  let entry := (← IO.currentDir) / path
  if ← entry.pathExists then
    pure (tree.plant (Text.ofString path) (← readNode "" path))
  else
    match entry.parent with
    | none => pure tree
    | some parent =>
      let parentText := Text.ofString parent.toString
      if (← parent.isDir) && !tree.isDir parentText then pure (tree.plant parentText (.dir []))
      else pure tree

/-- Writes the files at some paths that a command has changed. -/
def writeChanged (before after : FileTree) (paths : List String) : IO Unit := do
  for path in paths do
    match after.bytesAt (Text.ofString path) with
    | .ok bytes =>
      if (before.bytesAt (Text.ofString path)).toOption ≠ some bytes then
        IO.FS.writeBinFile path ⟨bytes.toArray⟩
    | .error _ => pure ()

/-- Prints what comes of a command and gives its exit code. -/
def finish {φ : Type} (message : φ → Text) (o : CommandLine.Outcome φ) : IO UInt32 := do
  IO.print o.printed.printable
  IO.eprint o.reported.printable
  match o.ending.fault? with
  | some fault => IO.eprintln (message fault).printable
  | none => pure ()
  pure o.ending.exitCode.toUInt32

end LogHarvest

open LogHarvest in
/-- Runs the command that the first argument names. -/
def main (args : List String) : IO UInt32 := do
  let name := (args.head?).getD ""
  let rest := args.drop 1
  let tree ← rest.foldlM addPath (← workTree)
  if Text.ofString name = CommandLine.Analyze.command.name then
    let (after, outcome) := CommandLine.Analyze.run tree (rest.map Text.ofString)
    writeChanged tree after rest
    finish Harvest.Fault.message outcome
  else if Text.ofString name = CommandLine.Parse.command.name then
    finish CommandLine.Parse.Fault.message (CommandLine.Parse.run tree (rest.map Text.ofString))
  else
    IO.eprintln "The first argument has to be analyze-source or parse-logs."
    pure 2
