import LogHarvest.CommandLine.Outcome
import LogHarvest.Harvest

/-!
# The command that harvests a source tree
-/

namespace LogHarvest.CommandLine.Analyze

open Text (ofString)

/-- The options of the command. -/
inductive Key where
  | included
  | excluded
  | progress
  | verbose
  | help
deriving DecidableEq

def command : Command Key where
  name := "analyze-source"
  paths := [⟨"SRC_DIR", .dir, true⟩, ⟨"OUTPUT_FILE", .file, false⟩]
  about := [
    "Extract log patterns from Java source code.",
    "",
    "Every debug/trace/info/warn/error call whose first argument is a string",
    "literal becomes one \"level|class|regex\" line in OUTPUT_FILE.",
    "",
    "# Analyze a checkout, skipping tests",
    "python analyze_source.py ~/src/onos patterns.txt --exclude '*/test/*'"]
  options := [
    ⟨.included, ["-i", "--include"], [], some "TEXT",
      ["Include file patterns (can be specified multiple", "times)"]⟩,
    ⟨.excluded, ["-e", "--exclude"], [], some "TEXT",
      ["Exclude file patterns (can be specified multiple", "times)"]⟩,
    ⟨.progress, ["--progress"], ["--no-progress"], none,
      ["Show a progress bar while analyzing files"]⟩,
    ⟨.verbose, ["-v", "--verbose"], [], none, ["Enable debug logging"]⟩,
    ⟨.help, ["--help"], [], none, ["Show this message and exit."]⟩]

/-- What is printed when a path is left out. -/
def hint : Text := Text.unlines ["Usage: analyze_source.py <srcDir> <outputFile>"]

/-- A harvest, and whether details of it are to be shown. -/
structure Job where
  harvest : Harvest.Job
  verbose : Bool

/-- What arguments ask for. -/
def request (tree : FileTree) (args : List Text) : Except Misuse (Request Job) := do
  let given ← command.read args
  if given.isOn .help then return .help
  command.checkPaths tree given.paths
  match given.paths with
  | source :: output :: _ =>
    if source.isEmpty || output.isEmpty then return .hint
    let rule := WalkRule.of (given.values .included) (given.values .excluded)
    return .work ⟨⟨source, output, rule⟩, given.isOn .verbose⟩
  | _ => return .hint

/-- What is printed after a harvest. -/
def results (verbose : Bool) (t : Totals) : Text :=
  echoed <| t.toText ::
    if verbose then [
      ofString "Skipped files: " ++ Text.ofInt t.skippedFiles,
      ofString "Failed patterns: " ++ Text.ofInt t.failedPatterns]
    else []

variable [Java.Parser]

/-- Harvests a source tree into a pattern file. -/
def perform (tree : FileTree) (job : Job) : FileTree × Outcome Harvest.Fault :=
  let (tree, step) := (Harvest.new Template.wordGroup).run tree job.harvest
  let reported := shownNotices job.verbose step.notices
  match step.result with
  | .ok totals => (tree, ⟨results job.verbose totals, reported, .done⟩)
  | .error fault => (tree, ⟨[], reported, .stopped fault⟩)

/-- Runs the command. -/
def run (tree : FileTree) (args : List Text) : FileTree × Outcome Harvest.Fault :=
  match request tree args with
  | .error misuse => (tree, command.refuse misuse)
  | .ok .help => (tree, .saying command.helpPage)
  | .ok .hint => (tree, .saying hint)
  | .ok (.work job) => perform tree job

end LogHarvest.CommandLine.Analyze
