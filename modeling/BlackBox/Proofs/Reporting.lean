import BlackBox.Proofs.Command
import BlackBox.Proofs.CommandLine

/-!
# Options of the report

Some options say which tests are run, and the others how that is reported: in which format, whether
quietly, and whether more is told besides. Command lines that agree on the first kind have the same
test files and the same verdicts (`SameTests.verdicts_eq`), so they exit alike; and what they print
is the same report in their style (`report_options_only_show`).
-/

namespace BlackBox.Command

variable {lib : Libraries} {d : Disk} {args args' : Arguments}

/-! ## Runs of the same tests -/

/-- Two command lines ask for the same tests: they differ at most in how the run is reported. -/
structure SameTests (args args' : Arguments) : Prop where
  /-- The program is the same. -/
  executable : args.executable = args'.executable
  /-- The directory that is searched is the same. -/
  root : args.root = args'.root
  /-- The filter is the same. -/
  filter : args.filter = args'.filter

/-- A run gets as far as its report: the program is there, and so is a test file. -/
structure Reaches (d : Disk) (args : Arguments) : Prop where
  /-- The program is there. -/
  program : ∃ program, d.file? args.executable = some program
  /-- There are test files. -/
  files : testFiles d args ≠ []

/-- The test files are the same. -/
theorem SameTests.testFiles_eq (h : SameTests args args') :
    testFiles d args = testFiles d args' := by
  rw [testFiles, testFiles, h.root, h.filter]

/-- The verdicts are the same. -/
theorem SameTests.verdicts_eq (h : SameTests args args') :
    verdicts lib d args = verdicts lib d args' := by
  rw [verdicts, verdicts, h.executable, h.testFiles_eq]

/-- One of the runs reaches its report if the other one does. -/
theorem SameTests.reaches (h : SameTests args args') (hreach : Reaches d args) :
    Reaches d args' := by
  obtain ⟨hprogram, hfiles⟩ := hreach
  rw [h.executable] at hprogram
  rw [h.testFiles_eq] at hfiles
  exact ⟨hprogram, hfiles⟩

/-- An option of the report leaves the tests as they are. -/
theorem sameTests_add (args : Arguments) (x : Extra) : SameTests args (args.add x) := by
  cases x <;> exact ⟨rfl, rfl, rfl⟩

/-! ## What is shown -/

/-- The report of a run on some files with some verdicts. -/
def reportOf (style : Report.Style) (files : List String) (vs : List Verdict) : String :=
  Report.whole style files.length vs (Summary.collect vs)

/-- A run that reaches its report exits by its verdicts and prints the report on them. -/
theorem Reaches.ends (h : Reaches d args) :
    (execute lib d args).exitCode = (if ∀ v ∈ verdicts lib d args, v.passed = true then 0 else 1) ∧
      (execute lib d args).stdout =
        reportOf (style args) (testFiles d args) (verdicts lib d args) := by
  obtain ⟨program, hprogram⟩ := h.program
  obtain ⟨found, log, hfind⟩ := find_of_testFiles_ne_nil h.files
  exact (execute_tells hprogram hfind).some h.files

/-- Two command lines that ask for the same tests, of which one reaches its report. They exit alike,
whatever they ask of the report, and in the same format they print the same, unless just one of them
is quiet. In TAP format that makes no difference either. In a report for people the run that is not
quiet prints the number of files and an item for each verdict, in their order, and then exactly what
the quiet run prints, in which every failed test is shown with its message. Such a pair is had from
one command line by putting an option of the report in front of it, where that is not refused
because the option is there already, and by taking one away from there. -/
theorem report_options_only_show (lib : Libraries) (d : Disk) {words words' : List String}
    (hparse : CommandLine.parse words = .ok args)
    (hparse' : CommandLine.parse words' = .ok args')
    (hsame : SameTests args args') (hreach : Reaches d args) :
    (run lib d words).exitCode = (run lib d words').exitCode ∧
    (args.format = args'.format → args.quiet = args'.quiet →
      (run lib d words).stdout = (run lib d words').stdout) ∧
    (args.format = .tap → args'.format = .tap →
      (run lib d words).stdout = (run lib d words').stdout) ∧
    (args.format = .summary → args'.format = .summary → args.quiet = false → args'.quiet = true →
      (run lib d words).stdout = s!"Running {(testFiles d args).length} testfiles:\n" ++
        String.join ((verdicts lib d args).map Report.item) ++ (run lib d words').stdout ∧
      ∀ v ∈ verdicts lib d args, v.passed = false → ∃ before after,
        (run lib d words').stdout = before ++ s!"   {v.testId}\n{v.message}\n" ++ after) ∧
    (∀ x, ∀ word ∈ Extra.words x, CommandLine.parse (word :: words) = .error .conflict ∨
      CommandLine.parse (word :: words) = .ok (args.add x) ∧ SameTests args (args.add x)) ∧
    (∀ x, ∀ word ∈ Extra.words x, ∀ rest, words = word :: rest → ∃ less,
      CommandLine.parse rest = .ok less ∧ args = less.add x ∧ SameTests less args) := by
  have hrun : run lib d words = execute lib d args := by rw [run, hparse]
  have hrun' : run lib d words' = execute lib d args' := by rw [run, hparse']
  obtain ⟨hcode, hout⟩ := hreach.ends
  obtain ⟨hcode', hout'⟩ := (hsame.reaches hreach).ends
  -- Both runs are about the same files and verdicts, so that only the styles are different.
  rw [← hsame.verdicts_eq] at hcode'
  rw [← hsame.testFiles_eq, ← hsame.verdicts_eq] at hout'
  rw [hrun, hrun', hcode, hcode', hout, hout']
  refine ⟨rfl, fun hformat hquiet => ?_, fun htap htap' => ?_,
    fun hf hf' hloud hquiet => ⟨?_, ?_⟩, fun x word hword => ?_, fun x word hword rest hwords => ?_⟩
  · rw [style, style, hformat, hquiet]
  · rw [style, style, htap, htap', reportOf, reportOf, Report.whole_tap_quiet,
      Report.whole_tap_quiet args'.quiet]
  · rw [style, style, hf, hf', hloud, hquiet, reportOf, Report.whole_loud]
    rfl
  · intro v hv hp
    rw [style, hf', hquiet, reportOf, Report.whole_quiet]
    exact Report.summaryText_shows (Summary.about_collect _) hv hp
  · -- An option in front of the words.
    have hextends := CommandLine.parse_cons_extends hword words
    rw [hparse] at hextends
    exact hextends.of_ok.symm.imp_right fun hadd => ⟨hadd, sameTests_add args x⟩
  · -- An option that the words begin with.
    have hextends := CommandLine.parse_cons_extends hword rest
    rw [← hwords, hparse] at hextends
    obtain ⟨less, hless, rfl⟩ := hextends.ok
    exact ⟨less, hless, rfl, sameTests_add less x⟩

/-- The run on a faulty file exits alike with `--verbose` and with `-q`, which leaves only the end
of the report. -/
theorem report_options_only_show_faulty :
    (run plainLibraries faultyDisk ["-e", "p", "--verbose"]).exitCode =
        (run plainLibraries faultyDisk ["-qe", "p"]).exitCode ∧
      (run plainLibraries faultyDisk ["-e", "p", "--verbose"]).stdout =
        "Running 1 testfiles:\n:( tests/a.yaml\n" ++
          (run plainLibraries faultyDisk ["-qe", "p"]).stdout ∧
      (run plainLibraries faultyDisk ["-e", "p", "--output-format=tap"]).stdout =
        (run plainLibraries faultyDisk ["-qe", "p", "--output-format", "tap"]).stdout := by
  have hparse : CommandLine.parse ["-e", "p", "--verbose"] =
    .ok (plainArguments.add .verbose) := rfl
  have hquiet : CommandLine.parse ["-qe", "p"] = .ok (plainArguments.add .quiet) := rfl
  have htap : CommandLine.parse ["-e", "p", "--output-format=tap"] =
    .ok (plainArguments.add (.format .tap)) := rfl
  have hquietTap : CommandLine.parse ["-qe", "p", "--output-format", "tap"] =
    .ok ((plainArguments.add (.format .tap)).add .quiet) := rfl
  have hfiles : testFiles faultyDisk plainArguments = ["tests/a.yaml"] := by
    obtain ⟨log, hfind⟩ := find_faultyDisk
    have hfound : Discovery.found faultyDisk plainArguments.root = ["tests/a.yaml"] :=
      Discovery.found_of_ok hfind
    rw [testFiles, hfound]
    rfl
  have hverdicts : verdicts plainLibraries faultyDisk plainArguments = [.fail "tests/a.yaml"
      "Error reading tests/a.yaml: test case at index 1 is not a mapping"] := by
    rw [verdicts_eq, hfiles, List.flatMap_singleton, run_faultyDisk]
  have hreach : Reaches faultyDisk plainArguments :=
    ⟨⟨_, rfl⟩, by rw [hfiles]; exact List.cons_ne_nil _ _⟩
  have hsame := sameTests_add plainArguments
  obtain ⟨hcode, -, -, hloud, -⟩ := report_options_only_show plainLibraries faultyDisk hparse hquiet
    ⟨rfl, rfl, rfl⟩ ((hsame _).reaches hreach)
  obtain ⟨-, -, hsilent, -⟩ := report_options_only_show plainLibraries faultyDisk htap hquietTap
    ⟨rfl, rfl, rfl⟩ ((hsame _).reaches hreach)
  refine ⟨hcode, ?_, hsilent rfl rfl⟩
  rw [(hloud rfl rfl rfl rfl).1, ← (hsame _).testFiles_eq, ← (hsame _).verdicts_eq, hfiles,
    hverdicts]
  rfl

end BlackBox.Command
