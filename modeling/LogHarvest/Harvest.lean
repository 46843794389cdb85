import LogHarvest.FileTree.Walk
import LogHarvest.Json.Record
import LogHarvest.Java.Calls
import LogHarvest.PatternFile
import LogHarvest.Template.Basic

/-!
# Harvesting log statements from sources

A harvest collects the statements of source files in a store and counts what it meets. Each log
call with a literal template becomes a statement of the class that owns the call. What goes
wrong with one call or one file is reported, and the harvest goes on with the next.
-/

namespace LogHarvest

open Text (ofString)

/-- What a harvest has met so far. -/
structure Totals where
  logs : Int
  files : Int
  skippedFiles : Int
  failedPatterns : Int
deriving DecidableEq

namespace Totals

def zero : Totals := ⟨0, 0, 0, 0⟩

def addLog (t : Totals) : Totals := { t with logs := t.logs + 1 }

def addFile (t : Totals) : Totals := { t with files := t.files + 1 }

def addSkippedFile (t : Totals) : Totals := { t with skippedFiles := t.skippedFiles + 1 }

def addFailedPattern (t : Totals) : Totals := { t with failedPatterns := t.failedPatterns + 1 }

/-- How totals are shown. -/
def toText (t : Totals) : Text :=
  ofString "Analyzed " ++ Text.ofInt t.logs ++ ofString " logs in " ++ Text.ofInt t.files ++
    ofString " files"

/-- The fields of totals in JSON. -/
def fields : List Json.Field := [
  ⟨"log_count", .number, some (.int 0)⟩, ⟨"file_count", .number, some (.int 0)⟩,
  ⟨"skipped_files", .number, some (.int 0)⟩, ⟨"failed_patterns", .number, some (.int 0)⟩]

/-- The totals of a record's fields. -/
def ofRecord (record : List (Text × Json)) : Totals :=
  ⟨Json.numberOf record "log_count", Json.numberOf record "file_count",
    Json.numberOf record "skipped_files", Json.numberOf record "failed_patterns"⟩

end Totals

/-- The statements harvested so far, and the text of the group that stands for a marker. -/
structure Harvest where
  group : Text
  store : Store
  totals : Totals

namespace Harvest

/-- Nothing harvested yet. -/
def new (group : Text) : Harvest := ⟨group, Store.empty, Totals.zero⟩

/-- What is reported about a call without arguments. -/
def noArguments (c : LogCall) (path : Text) : Notice :=
  .warning .analyzer <|
    ofString "Cannot resolve logger statement " ++ c.describe ++ ofString " in file " ++ path

/-- What is reported about a template that does not compile. -/
def badTemplate (template path reason : Text) : Notice :=
  .warning .analyzer <|
    ofString "Exception while converting regex " ++ template ++ ofString " in file " ++ path ++
    ofString ". Message " ++ reason

/-- What is reported about a call that no type owns. -/
def noOwner (c : LogCall) (path : Text) : Notice :=
  .warning .analyzer <|
    ofString "Cannot resolve parent class for " ++ c.describe ++ ofString " in file " ++ path

/-- What is reported about a file without facts. -/
def skipped (path reason : Text) : Notice :=
  .warning .analyzer <|
    ofString "Exception while analyzing file " ++ path ++ ofString ": " ++ reason

/-- What came of a part of the work: the harvest after it, what was reported, and its result. -/
structure Step (α : Type) where
  harvest : Harvest
  notices : List Notice
  result : α

/-- Takes one call. A call that has no argument, or no literal template, or a template that does
not compile leaves no statement. -/
def addCall (h : Harvest) (facts : SourceFacts) (c : LogCall) :
    Step (Except Template.Failure (Option Statement)) :=
  if c.argumentCount = 0 then ⟨h, [noArguments c facts.path], .ok none⟩
  else
    match c.template with
    | none => ⟨h, [], .ok none⟩
    | some template =>
      let h := { h with totals := h.totals.addLog }
      match Template.compileWith h.group template with
      | .error (.malformed template reason) =>
        ⟨{ h with totals := h.totals.addFailedPattern },
          [badTemplate template facts.path reason], .ok none⟩
      | .error failure => ⟨h, [], .error failure⟩
      | .ok pattern =>
        let s : Statement := ⟨c.method, c.owner facts.fields, pattern⟩
        let notices := if (c.owner? facts.fields).isSome then [] else [noOwner c facts.path]
        ⟨{ h with store := h.store.add s }, notices, .ok (some s)⟩

/-- Takes calls in order. -/
def addCalls (h : Harvest) (facts : SourceFacts) :
    List LogCall → Step (Except Template.Failure (List Statement))
  | [] => ⟨h, [], .ok []⟩
  | c :: rest =>
    let one := h.addCall facts c
    match one.result with
    | .error failure => ⟨one.harvest, one.notices, .error failure⟩
    | .ok s =>
      let others := addCalls one.harvest facts rest
      ⟨others.harvest, one.notices ++ others.notices, others.result.map (s.toList ++ ·)⟩

/-- Takes the calls of one file and gives the statements made of them. -/
def addFacts (h : Harvest) (facts : SourceFacts) :
    Step (Except Template.Failure (List Statement)) :=
  h.addCalls facts facts.calls

/-- What to harvest and where to write the records. -/
structure Job where
  source : Text
  output : Text
  rule : WalkRule

/-- Why a harvest of a source tree came to an end before its time. -/
inductive Fault where
  | notDirectory (path : Text)
  | output (fault : PatternFile.Fault)
  | template (failure : Template.Failure)

def Fault.message : Fault → Text
  | .notDirectory path => ofString "Specify a src directory: " ++ path
  | .output fault => fault.message
  | .template (.malformed text reason) => Template.failureText text reason
  | .template (.unsupported refusal source) => refusal.message source

/-- Takes one file: its statements go to the store and are then written. -/
def addFile (h : Harvest) (w : PatternFile.Writer) (path : Text)
    (facts : Except SourceFault SourceFacts) : Step (PatternFile.Writer × Option Fault) :=
  match facts with
  | .error fault =>
    ⟨{ h with totals := h.totals.addSkippedFile }, [skipped path fault.reason], (w, none)⟩
  | .ok facts =>
    let step := h.addFacts facts
    match step.result with
    | .error failure => ⟨step.harvest, step.notices, (w, some (.template failure))⟩
    | .ok statements =>
      match w.writeAll statements with
      | (w, some fault) => ⟨step.harvest, step.notices, (w, some (.output fault))⟩
      | (w, none) =>
        ⟨{ step.harvest with totals := step.harvest.totals.addFile }, step.notices, (w, none)⟩

/-- Takes files in order up to the first fault. -/
def addFiles (h : Harvest) (w : PatternFile.Writer) :
    List (Text × Except SourceFault SourceFacts) → Step (PatternFile.Writer × Option Fault)
  | [] => ⟨h, [], (w, none)⟩
  | (path, facts) :: rest =>
    let one := h.addFile w path facts
    match one.result with
    | (w, some fault) => ⟨one.harvest, one.notices, (w, some fault)⟩
    | (w, none) =>
      let others := addFiles one.harvest w rest
      { others with notices := one.notices ++ others.notices }

variable [Java.Parser]

/-- The facts of the file that names lead to from the top of a tree. -/
def factsAt (tree : FileTree) (parts : List Text) : Except SourceFault SourceFacts :=
  let path := tree.absolute parts
  match tree.top.get parts with
  | .ok (.file bytes) => SourceFacts.ofBytes path bytes []
  | .ok (.dir _) => .error (.file path .isDirectory)
  | .error fault => .error (.file path fault)

/-- What is reported before the files are read. -/
def foundNotice (count : Nat) (source : Text) : Notice :=
  .detail .analyzer <|
    ofString "Found " ++ Text.ofNat count ++ ofString " source files under " ++ source

/-- Harvests a source tree: lists its files, empties the output, and takes the files in order.
The output is closed whatever happens, and holds what was written up to then. -/
def run (h : Harvest) (tree : FileTree) (job : Job) : FileTree × Step (Except Fault Totals) :=
  if !tree.isDir (Path.tidy job.source) then
    (tree, ⟨h, [], .error (.notDirectory job.source)⟩)
  else
    let root := tree.locate job.source
    let files := (tree.walk job.rule job.source).map (root ++ ·)
    let found := foundNotice files.length job.source
    match (PatternFile.Writer.new job.output).openFile tree with
    | .error fault => (tree, ⟨h, [found], .error (.output fault)⟩)
    | .ok (w, tree) =>
      let step := h.addFiles w (files.map fun f => (tree.absolute f, factsAt tree f))
      let (w, fault) := step.result
      let (_, tree) := w.close tree
      let result := match fault with
        | some fault => .error fault
        | none => .ok step.harvest.totals
      (tree, ⟨step.harvest, found :: step.notices, result⟩)

end Harvest

end LogHarvest
