import LogHarvest.FileTree.Basic
import LogHarvest.Store
import LogHarvest.Text.Lines

/-!
# Pattern files

A pattern file holds one record a line, in UTF-8. A writer empties the file when it is opened
and fills it when it is closed; what it has written counts on from one file to the next. A
reader takes the lines one by one, so records before a fault of the file are still looked at.
-/

namespace LogHarvest

open Text.Utf8 (Bytes)

namespace PatternFile

/-- Why a pattern file could not be read or written. -/
inductive Fault where
  | file (path : Text) (fault : FileFault)
  | decode (e : Text.Utf8.DecodeError)
  | encode (e : Text.Utf8.EncodeError)
  | refused (r : Pattern.Refusal)
  | notOpened

def Fault.message : Fault → Text
  | .file path fault => fault.message path
  | .decode e => e.message
  | .encode e => e.message
  | .refused r => r.message []
  | .notOpened => "PatternFileWriter not opened"

/-! ### Reading -/

/-- The lines of a pattern file up to the first fault of its encoding, and that fault. -/
def linesOf (bytes : Bytes) : List Text × Option Text.Utf8.DecodeError :=
  match Text.Utf8.decodeFile bytes with
  | (text, none) => (text.lines, none)
  | (text, some e) => (text.completeLines, some e)

/-- The store of a pattern file's bytes, with what is reported on the way. -/
def storeOf (bytes : Bytes) : List Notice × Except Fault Store :=
  let (lines, fault) := linesOf bytes
  match Store.ofRecords lines with
  | (notices, .error r) => (notices, .error (.refused r))
  | (notices, .ok store) =>
    match fault with
    | some e => (notices, .error (.decode e))
    | none => (notices, .ok store)

/-- What is reported about a pattern file that has been read. -/
def loadedNotice (store : Store) (path : Text) : Notice :=
  .detail .store <|
    Text.ofString "Loaded " ++ Text.ofNat store.size ++ Text.ofString " patterns for " ++
    Text.ofNat store.classes.length ++ Text.ofString " classes from " ++ path

/-- The store of the pattern file at a path. -/
def load (tree : FileTree) (path : Text) : List Notice × Except Fault Store :=
  match tree.bytesAt (Path.tidy path) with
  | .error fault => ([], .error (.file (Path.tidy path) fault))
  | .ok bytes =>
    match storeOf bytes with
    | (notices, .ok store) => (notices ++ [loadedNotice store path], .ok store)
    | (notices, .error e) => (notices, .error e)

/-! ### Writing -/

/-- A writer of the pattern file at some path. While it is open it holds what it has not yet
put into the file. -/
structure Writer where
  path : Text
  pending : Option Bytes
  count : Nat

namespace Writer

/-- A writer that has not been opened. -/
def new (path : Text) : Writer := ⟨Path.tidy path, none, 0⟩

def isOpen (w : Writer) : Bool := w.pending.isSome

/-- Opens the file and empties it. A writer that is open already is closed by the way. -/
def openFile (w : Writer) (tree : FileTree) : Except Fault (Writer × FileTree) :=
  match tree.putFile w.path (w.pending.getD []) with
  | .ok tree => .ok ({ w with pending := some [] }, tree)
  | .error fault => .error (.file w.path fault)

/-- Puts what has been written into the file, from its start on, and closes it. -/
def close (w : Writer) (tree : FileTree) : Writer × FileTree :=
  match w.pending with
  | none => (w, tree)
  | some bytes =>
    let closed := { w with pending := none }
    match tree.bytesAt w.path with
    | .error _ => (closed, tree)
    | .ok old =>
      match tree.putFile w.path (bytes ++ old.drop bytes.length) with
      | .ok tree => (closed, tree)
      | .error _ => (closed, tree)

/-- Writes one record and a line feed. -/
def write (w : Writer) (s : Statement) : Except Fault Writer :=
  match w.pending with
  | none => .error .notOpened
  | some bytes =>
    match Text.Utf8.encode s.toRecord with
    | .ok record => .ok { w with pending := some (bytes ++ record ++ [10]), count := w.count + 1 }
    | .error e => .error (.encode e)

/-- Writes the records of some statements up to the first that cannot be written. -/
def writeAll (w : Writer) : List Statement → Writer × Option Fault
  | [] => (w, none)
  | s :: rest =>
    match w.write s with
    | .ok w => writeAll w rest
    | .error e => (w, some e)

end Writer

/-- Writes all statements of a store to the file at a path and says how many they are. What
was written before a failure stays. -/
def dump (store : Store) (tree : FileTree) (path : Text) : FileTree × Except Fault Nat :=
  match (Writer.new path).openFile tree with
  | .error e => (tree, .error e)
  | .ok (w, tree) =>
    let (w, failure) := w.writeAll store.toList
    let (w, tree) := w.close tree
    match failure with
    | none => (tree, .ok w.count)
    | some e => (tree, .error e)

end PatternFile

end LogHarvest
