import LogHarvest.FileTree.Path
import LogHarvest.Text.Utf8

/-!
# Trees of files

The program sees files as a value: directories that hold entries by name, and files that hold
bytes. Reading, writing and listing are functions on it, and the ways in which they fail are
those of opening a file.
-/

namespace LogHarvest

open Text (ofString)
open Text.Utf8 (Bytes)

/-- A file or a directory. -/
inductive FileNode where
  | file (bytes : Bytes)
  | dir (entries : List (Text × FileNode))

/-- A tree with the directory that relative paths start from. -/
structure FileTree where
  top : FileNode
  /-- What absolute paths begin with, before the first slash. -/
  topName : Text
  work : List Text

/-- Why a path cannot be opened. -/
inductive FileFault where
  | notFound
  | notDirectory
  | isDirectory
deriving DecidableEq

/-- What is said about a path that cannot be opened. -/
def FileFault.message (path : Text) (fault : FileFault) : Text :=
  ofString (match fault with
    | .notFound => "[Errno 2] No such file or directory: "
    | .notDirectory => "[Errno 20] Not a directory: "
    | .isDirectory => "[Errno 21] Is a directory: ") ++ Text.Quoted.encode path

namespace FileNode

def isFile : FileNode → Bool
  | .file _ => true
  | .dir _ => false

def isDir (n : FileNode) : Bool := !n.isFile

/-- The entries of a directory; a file has none. -/
def entries : FileNode → List (Text × FileNode)
  | .file _ => []
  | .dir entries => entries

/-- Entries by name. -/
def sortedEntries (entries : List (Text × FileNode)) : List (Text × FileNode) :=
  entries.mergeSort fun a b => Text.le a.1 b.1

/-- An entry of a directory. -/
def entry? (n : FileNode) (name : Text) : Option FileNode :=
  (n.entries.find? fun e => e.1 = name).map Prod.snd

/-- The node that names lead to. -/
def get : FileNode → List Text → Except FileFault FileNode
  | n, [] => .ok n
  | .file _, _ :: _ => .error .notDirectory
  | .dir entries, name :: rest =>
    match entries.find? fun e => e.1 = name with
    | none => .error .notFound
    | some (_, n) => n.get rest

/-- The entries of a directory with one of them replaced or added. -/
def setEntry (name : Text) (n : FileNode) : List (Text × FileNode) → List (Text × FileNode)
  | [] => [(name, n)]
  | e :: rest => if e.1 = name then (name, n) :: rest else e :: setEntry name n rest

/-- Writes a file in a directory that is there. -/
def put (bytes : Bytes) : List Text → FileNode → Except FileFault FileNode
  | [], .file _ => .ok (.file bytes)
  | [], .dir _ => .error .isDirectory
  | _ :: _, .file _ => .error .notDirectory
  | [name], .dir entries =>
    match entries.find? fun e => e.1 = name with
    | some (_, .dir _) => .error .isDirectory
    | _ => .ok (.dir (setEntry name (.file bytes) entries))
  | name :: rest, .dir entries =>
    match entries.find? fun e => e.1 = name with
    | none => .error .notFound
    | some (_, n) => (put bytes rest n).map fun n => .dir (setEntry name n entries)

/-- Puts a node where names lead, making the directories on the way. -/
def plant (n : FileNode) : List Text → FileNode → FileNode
  | [], _ => n
  | name :: rest, parent =>
    let child := (parent.entry? name).getD (.dir [])
    .dir (setEntry name (plant n rest child) parent.entries)

end FileNode

namespace FileTree

/-- The names of the directory that a path starts from. -/
def start (tree : FileTree) (path : Text) : List Text :=
  if Path.isAbsolute path then [] else tree.work

/-- The names that lead to a path from the top. -/
def locate (tree : FileTree) (path : Text) : List Text :=
  Path.follow (tree.start path) (Path.parts path)

/-- The absolute path that names lead to. -/
def absolute (tree : FileTree) (parts : List Text) : Text :=
  tree.topName ++ ('/' : Code) :: Path.ofParts parts

/-- The absolute path of a path. -/
def resolve (tree : FileTree) (path : Text) : Text :=
  match tree.locate path with
  | [] => if tree.topName.isEmpty then [('/' : Code)] else tree.topName
  | parts => tree.absolute parts

/-- The names that the parts of a path lead to, where each step has to start from a directory
that is there. -/
def enter (tree : FileTree) (place : List Text) : List Text → Except FileFault (List Text)
  | [] => .ok place
  | part :: rest =>
    match tree.top.get place with
    | .ok (.dir _) => tree.enter (Path.step place part) rest
    | .ok (.file _) => .error .notDirectory
    | .error fault => .error fault

/-- The names of what is opened at a path. -/
def opened (tree : FileTree) (path : Text) : Except FileFault (List Text) :=
  if path.isEmpty then .error .notFound
  else tree.enter (tree.start path) (Text.splitOn '/' path)

/-- What stands at a path. -/
def get (tree : FileTree) (path : Text) : Except FileFault FileNode :=
  match tree.opened path with
  | .ok place => tree.top.get place
  | .error fault => .error fault

/-- What stands at a path, if anything does. -/
def get? (tree : FileTree) (path : Text) : Option FileNode :=
  match tree.get path with
  | .ok n => some n
  | .error _ => none

def isDir (tree : FileTree) (path : Text) : Bool := (tree.get? path).any FileNode.isDir

def isFile (tree : FileTree) (path : Text) : Bool := (tree.get? path).any FileNode.isFile

/-- The bytes of the file at a path. -/
def bytesAt (tree : FileTree) (path : Text) : Except FileFault Bytes :=
  match tree.get path with
  | .ok (.file bytes) => .ok bytes
  | .ok (.dir _) => .error .isDirectory
  | .error fault => .error fault

/-- The tree after a file has been written. -/
def putFile (tree : FileTree) (path : Text) (bytes : Bytes) : Except FileFault FileTree :=
  match tree.opened path with
  | .ok place => (tree.top.put bytes place).map fun top => { tree with top := top }
  | .error fault => .error fault

/-- The tree with a node at a path, and the directories that lead to it. -/
def plant (tree : FileTree) (path : Text) (n : FileNode) : FileTree :=
  { tree with top := FileNode.plant n (tree.locate path) tree.top }

end FileTree

end LogHarvest
