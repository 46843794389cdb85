import LogHarvest.CommandLine.Outcome
import LogHarvest.LogReader

/-!
# The command that reads logs
-/

namespace LogHarvest.CommandLine.Parse

open Text (ofString)

/-- The options of the command. -/
inductive Key where
  | format
  | summary
  | verbose
  | help
deriving DecidableEq

/-- How readings are printed. -/
inductive Format where
  | text
  | json
deriving DecidableEq

namespace Format

def all : List Format := [.text, .json]

def name : Format → Text
  | .text => "text"
  | .json => "json"

/-- The format with a name. -/
def named? (name : Text) : Option Format := all.find? fun f => f.name = name

/-- A reading in a format. -/
def write : Format → Reading → Text
  | .text, r => r.toText
  | .json, r => r.toJson.toText

end Format

def command : Command Key where
  name := "parse-logs"
  paths := [⟨"PATTERNS_FILE", .file, true⟩, ⟨"LOGS_DIR", .dir, true⟩]
  about := [
    "Parse every file in LOGS_DIR against PATTERNS_FILE.",
    "",
    "One record is printed per line that matched a pattern; malformed and",
    "unmatched lines are left out."]
  options := [
    ⟨.format, ["--format"], [], some "[text|json]", ["Output format for parsed records"]⟩,
    ⟨.summary, ["--summary"], [], none, ["Print match statistics after the records"]⟩,
    ⟨.verbose, ["-v", "--verbose"], [], none, ["Enable debug logging"]⟩,
    ⟨.help, ["--help"], [], none, ["Show this message and exit."]⟩]

/-- What is printed when a path is left out. -/
def hint : Text := Text.unlines ["Usage: parse_logs.py <patternsFile> <logsDir>"]

/-- What to read, with what, and how to show it. -/
structure Job where
  patterns : Text
  logs : Text
  format : Format
  summary : Bool
  verbose : Bool

/-- The format that was asked for: the last one named, or text. -/
def formatOf (given : Given Key) : Except Misuse Format :=
  match (given.values .format).getLast? with
  | none => .ok .text
  | some name =>
    match Format.named? name with
    | some format => .ok format
    | none => .error (.notAChoice "--format" name (Format.all.map Format.name))

/-- What arguments ask for. -/
def request (tree : FileTree) (args : List Text) : Except Misuse (Request Job) := do
  let given ← command.read args
  if given.isOn .help then return .help
  let format ← formatOf given
  command.checkPaths tree given.paths
  match given.paths with
  | patterns :: logs :: _ =>
    if patterns.isEmpty || logs.isEmpty then return .hint
    return .work ⟨patterns, logs, format, given.isOn .summary, given.isOn .verbose⟩
  | _ => return .hint

/-- Why the command was stopped. -/
inductive Fault where
  | patterns (fault : PatternFile.Fault)
  | logs (fault : LogReader.Fault)

def Fault.message : Fault → Text
  | .patterns fault => fault.message
  | .logs fault => fault.message

/-- What is printed about the lines that were read. -/
def summaryOf (t : Tally) : List Text := [
  ofString "Total lines: " ++ Text.ofInt t.lines,
  ofString "Malformed lines: " ++ Text.ofInt t.malformed,
  ofString "Unmatched lines: " ++ Text.ofInt t.unmatched,
  ofString "Matched lines: " ++ Text.ofInt t.matched,
  ofString "Match rate: " ++ t.matchRate.toFixed 1 ++ ofString "%"]

/-- What is printed: the readings that were matched, and the summary if it was asked for. -/
def results (job : Job) (files : List LogReader.FileReadings) (t : Tally) : Text :=
  let readings := (files.flatMap (·.readings)).filter Reading.isMatched
  echoed (readings.map job.format.write ++ if job.summary then summaryOf t else [])

/-- Reads the logs of a directory with the statements of a pattern file. -/
def perform (tree : FileTree) (job : Job) : Outcome Fault :=
  match LogReader.ofPatterns tree job.patterns with
  | (notices, .error fault) =>
    ⟨[], shownNotices job.verbose notices, .stopped (.patterns fault)⟩
  | (loading, .ok reader) =>
    match reader.readDir tree job.logs with
    | (.error fault, _) => ⟨[], shownNotices job.verbose loading, .stopped (.logs fault)⟩
    | (.ok files, reader) =>
      ⟨results job files reader.tally,
        shownNotices job.verbose (loading ++ LogReader.notices files), .done⟩

/-- Runs the command. -/
def run (tree : FileTree) (args : List Text) : Outcome Fault :=
  match request tree args with
  | .error misuse => command.refuse misuse
  | .ok .help => .saying command.helpPage
  | .ok .hint => .saying hint
  | .ok (.work job) => perform tree job

end LogHarvest.CommandLine.Parse
