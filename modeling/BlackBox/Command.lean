import BlackBox.CommandLine
import BlackBox.Files.Discovery
import BlackBox.TestFile

/-!
# The command

A run from the command line: the program must be there, then test files are searched for and
filtered, and their verdicts are reported. The exit code is 0 exactly if the search does not fail,
there are test files and every test has passed.
-/

namespace BlackBox.Command

/-- What a run leaves behind. -/
structure Result where
  /-- The exit code. -/
  exitCode : Nat
  /-- What is printed. -/
  stdout : String := ""
  /-- What is printed about errors. -/
  stderr : String := ""
  /-- What is told about the run besides. -/
  log : List Log.Record := []
  deriving Repr, DecidableEq

/-- How the report of a run is printed. Colours are for terminals only. -/
def style (args : Arguments) : Report.Style := { format := args.format, quiet := args.quiet }

/-- What is said when there is no program. -/
def missingProgram (executable : String) : String :=
  "Error: " ++ Environment.notFoundMessage executable ++ ". Please build project first.\n"

/-- What is said when the search for test files fails. -/
def searchFailed (b : Discovery.Blocked) : String :=
  "Error: Failed to search for test files: " ++ b.message ++ "\n"

/-- What is told about test files: what each of them holds. -/
def fileRecords (d : Disk) (files : List String) : List Log.Record :=
  files.flatMap fun path =>
    match TestFile.load d path with
    | .ok cases => TestFile.records d path cases
    | .error _ => []

/-- The records that are told; those that are no warnings only if more is asked for. -/
def told (args : Arguments) (records : List Log.Record) : List Log.Record :=
  records.filter fun r => args.verbose || r.level = .warn

/-- Runs what a command line asks for. -/
def execute (lib : Libraries) (d : Disk) (args : Arguments) : Result :=
  match Environment.resolve? d args.executable with
  | none => { exitCode := 1, stderr := missingProgram args.executable }
  | some (env, records) =>
    match Discovery.find d args.root with
    | .error b => { exitCode := 1, stderr := searchFailed b, log := told args records }
    | .ok (found, foundRecords) =>
      let files := Discovery.filterPaths args.filter found
      let log := told args (records ++ foundRecords ++ fileRecords d files)
      if files.isEmpty then { exitCode := 1, stdout := Report.noTestFiles, log }
      else
        let (reported, summary) := TestFile.runAll lib d env files
        { exitCode := if summary.isSuccess then 0 else 1
          stdout := Report.whole (style args) files.length reported summary
          log }

/-- Runs a command line. -/
def run (lib : Libraries) (d : Disk) (words : List String) : Result :=
  match CommandLine.parse words with
  | .ok args => execute lib d args
  | .error .help => { exitCode := 0, stdout := CommandLine.helpText }
  | .error stop => { exitCode := 2, stderr := stop.message }

/-- The lines about errors that stop a run. -/
def Result.errors (r : Result) : List String :=
  ((Text.lines r.stderr.toList).filter ("Error: ".toList.isPrefixOf ·)).map String.ofList

end BlackBox.Command
