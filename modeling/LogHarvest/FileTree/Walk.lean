import LogHarvest.FileTree.Basic
import LogHarvest.Glob

/-!
# Walking a source tree

A walk lists the files below a directory that some include glob matches and no exclude glob
does: in each directory first its files by name, then what is below its subdirectories, by
name too. Globs are held against the path below the directory where the walk starts, both as
it is and with a slash before it; a subdirectory is held against the exclude globs with a slash
after it and not entered if one of them matches.
-/

namespace LogHarvest

/-- Which files a walk is to list. -/
structure WalkRule where
  included : List Text
  excluded : List Text

namespace WalkRule

/-- What is included when nothing is said: Java sources. -/
def defaultInclude : List Text := [Text.ofChars ['*', '.', 'j', 'a', 'v', 'a']]

/-- Directories that never hold sources worth a look. -/
def builtinExclude : List Text := [
  "*/target/*", "*/build/*", "*/bin/*", "*/out/*", "*/.git/*", "*/.svn/*", "*/.hg/*",
  "*/node_modules/*", "*/__pycache__/*"]

/-- The rule of some include globs, or the usual ones, and some exclude globs beside those
that always hold. -/
def of (included excluded : List Text) : WalkRule :=
  ⟨if included.isEmpty then defaultInclude else included, excluded ++ builtinExclude⟩

/-- Whether a glob matches a path as it is or with a slash before it. -/
def globMatches (path glob : Text) : Bool :=
  (Glob.read glob).accepts path || (Glob.read glob).accepts (('/' : Code) :: path)

/-- Whether some glob matches a path. -/
def anyMatches (path : Text) (globs : List Text) : Bool := globs.any (globMatches path)

/-- Whether a walk lists a file, by its path. -/
def listsFile (rule : WalkRule) (path : Text) : Bool :=
  anyMatches path rule.included && !anyMatches path rule.excluded

/-- Whether a walk enters a directory, by its path. -/
def entersDir (rule : WalkRule) (path : Text) : Bool :=
  !anyMatches (path ++ [('/' : Code)]) rule.excluded

end WalkRule

namespace FileNode

mutual

/-- The paths, as names below the start, of the files that a walk lists from a node on. The
node is reached by the given names. -/
def walkNode (rule : WalkRule) (above : List Text) : FileNode → List (List Text)
  | .file _ => []
  | .dir entries =>
    let files := (sortedEntries (entries.filter fun e => e.2.isFile)).filterMap fun e =>
      let path := above ++ [e.1]
      if rule.listsFile (Path.ofParts path) then some path else none
    files ++ ((walkDirs rule above entries).mergeSort fun a b => Text.le a.1 b.1).flatMap Prod.snd

/-- What a walk lists below each subdirectory that it enters, with the subdirectory's name. -/
def walkDirs (rule : WalkRule) (above : List Text) :
    List (Text × FileNode) → List (Text × List (List Text))
  | [] => []
  | (name, n) :: rest =>
    let path := above ++ [name]
    if n.isDir && rule.entersDir (Path.ofParts path) then
      (name, walkNode rule path n) :: walkDirs rule above rest
    else walkDirs rule above rest

end

end FileNode

namespace FileTree

/-- The files that a walk lists below a path, each as names from there on. -/
def walk (tree : FileTree) (rule : WalkRule) (path : Text) : List (List Text) :=
  match tree.top.get (tree.locate path) with
  | .ok n => n.walkNode rule []
  | .error _ => []

end FileTree

end LogHarvest
