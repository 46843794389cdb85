import LogHarvest.LogLine
import LogHarvest.PatternFile
import LogHarvest.Reading
import LogHarvest.Tally

/-!
# Reading logs

A log reader holds a store of statements and counts the lines it reads. Each line is taken for
itself: what is read from it depends on the store alone, and the counts only grow.
-/

namespace LogHarvest

/-- A store and the counts of the lines read with it. -/
structure LogReader where
  store : Store
  tally : Tally

namespace LogReader

/-- Why logs could not be read. -/
inductive Fault where
  | notDirectory (path : Text)
  | file (path : Text) (fault : FileFault)

def Fault.message : Fault → Text
  | .notDirectory path => Text.ofString "Not a directory: " ++ path
  | .file path fault => fault.message path

/-- A reader that has read nothing. -/
def ofStore (store : Store) : LogReader := ⟨store, Tally.zero⟩

/-- The reader with the store of a pattern file, and what is reported while the file is loaded. -/
def ofPatterns (tree : FileTree) (path : Text) :
    List Notice × Except PatternFile.Fault LogReader :=
  let (notices, loaded) := PatternFile.load tree path
  (notices, loaded.map ofStore)

/-- Why there is no reader: nothing is given to read with, or the pattern file cannot be loaded. -/
inductive OriginFault where
  | nothingGiven
  | patterns (fault : PatternFile.Fault)

def OriginFault.message : OriginFault → Text
  | .nothingGiven => "Either patterns_file or repository is required"
  | .patterns fault => fault.message

/-- The reader with a store or, when no store is given, with that of a pattern file. -/
def ofOrigin (tree : FileTree) (patterns : Option Text) (store : Option Store) :
    List Notice × Except OriginFault LogReader :=
  match store, patterns with
  | some store, _ => ([], .ok (ofStore store))
  | none, some path =>
    let (notices, reader) := ofPatterns tree path
    (notices, reader.mapError .patterns)
  | none, none => ([], .error .nothingGiven)

/-- What a store reads from a line: nothing if it is no log line or no statement serves its
class. A reading that was matched has the level of the line. -/
def readingOf (store : Store) (line : LogLine) : Option Reading :=
  (Reading.ofMessage? store line.message line.clazz).map fun r =>
    if r.isMatched then { r with level := some line.level } else r

/-- Reads one line. -/
def readLine (r : LogReader) (line : Text) : Option Reading × LogReader :=
  match LogLine.ofText? line with
  | none => (none, { r with tally := r.tally.addMalformed })
  | some logLine =>
    let reading := readingOf r.store logLine
    if reading.any Reading.isMatched then (reading, { r with tally := r.tally.addMatched })
    else (reading, { r with tally := r.tally.addUnmatched })

/-- Reads lines in order; those without a reading leave none. -/
def readLines (r : LogReader) : List Text → List Reading × LogReader
  | [] => ([], r)
  | line :: lines =>
    let (reading, r) := r.readLine line
    let (readings, r) := readLines r lines
    (reading.toList ++ readings, r)

/-- The lines of a log file. Bytes that are no text are dropped. -/
def linesOf (bytes : Text.Utf8.Bytes) : List Text := (Text.Utf8.decodeDropping bytes).lines

/-- Reads the log file at a path. -/
def readLog (r : LogReader) (tree : FileTree) (path : Text) :
    Except Fault (List Reading) × LogReader :=
  match tree.bytesAt path with
  | .error fault => (.error (.file path fault), r)
  | .ok bytes =>
    let (readings, r) := r.readLines (linesOf bytes)
    (.ok readings, r)

/-- The readings of one file of a directory. -/
structure FileReadings where
  path : Text
  readings : List Reading

/-- Reads files in order, given with their paths. -/
def readFiles (r : LogReader) : List (Text × Text.Utf8.Bytes) → List FileReadings × LogReader
  | [] => ([], r)
  | (path, bytes) :: rest =>
    let (readings, r) := r.readLines (linesOf bytes)
    let (others, r) := readFiles r rest
    (⟨path, readings⟩ :: others, r)

/-- The path of an entry of a directory. -/
def entryPath (dir name : Text) : Text :=
  if dir = Path.dot then name
  else if dir = [('/' : Code)] then ('/' : Code) :: name
  else dir ++ ('/' : Code) :: name

/-- The files directly in a directory by name, with their paths. -/
def filesIn (dir : Text) (n : FileNode) : List (Text × Text.Utf8.Bytes) :=
  (FileNode.sortedEntries n.entries).filterMap fun e =>
    match e.2 with
    | .file bytes => some (entryPath dir e.1, bytes)
    | .dir _ => none

/-- Reads every file directly in the directory at a path, by name. -/
def readDir (r : LogReader) (tree : FileTree) (path : Text) :
    Except Fault (List FileReadings) × LogReader :=
  match tree.get? (Path.tidy path) with
  | some (.dir entries) =>
    let (files, r) := r.readFiles (filesIn (Path.tidy path) (.dir entries))
    (.ok files, r)
  | _ => (.error (.notDirectory path), r)

/-- What is reported while the files of a directory are read. -/
def notices (files : List FileReadings) : List Notice :=
  files.flatMap fun f =>
    .detail .logReader (Text.ofString "Parsing log file " ++ f.path) ::
      (f.readings.filter Reading.isMatched).map Reading.notice

end LogReader

end LogHarvest
