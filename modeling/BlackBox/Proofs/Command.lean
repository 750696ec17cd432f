import BlackBox.Command
import BlackBox.Proofs.Files.Selection
import BlackBox.Proofs.Loading

/-!
# Runs from the command line

A command line that is understood ends in one of four ways: the program is not there, the search for
test files fails, no test file survives the filter, or the verdicts on the test files are reported
(`execute_of_no_program`, `execute_of_failed_search`, `execute_of_no_files`, `execute_of_files`).
`run_exits_and_reports` puts them together: when the exit code is zero, and what is printed in each
case. The three counts of a run, the numbers of its test points, the total of its summary and its
failures, agree because the summary is about the very verdicts that are reported.
-/

namespace BlackBox.Command

variable {lib : Libraries} {d : Disk} {args : Arguments} {found : List String}
  {log : List Log.Record}

/-! ## The four ends of a run -/

/-- The environment for a program that is there. A relative path is followed from the current
directory. -/
def environment (d : Disk) (executable : String) : Environment :=
  ⟨if Path.isAbsolute executable then executable else Path.join d.current executable⟩

/-- The test files that are found below the root of a run and survive its filter. -/
def testFiles (d : Disk) (args : Arguments) : List String :=
  Discovery.filterPaths args.filter (Discovery.found d args.root)

/-- The verdicts on the test files of a run. -/
def verdicts (lib : Libraries) (d : Disk) (args : Arguments) : List Verdict :=
  (TestFile.runAll lib d (environment d args.executable) (testFiles d args)).1

/-- The summary of a run. -/
def summary (lib : Libraries) (d : Disk) (args : Arguments) : Summary :=
  (TestFile.runAll lib d (environment d args.executable) (testFiles d args)).2

/-- The summary of a run is about its verdicts. -/
theorem summary_about (lib : Libraries) (d : Disk) (args : Arguments) :
    (summary lib d args).About (verdicts lib d args) :=
  TestFile.runAll_about lib d _ _

/-- The verdicts of a run are those on its files in their order. -/
theorem verdicts_eq (lib : Libraries) (d : Disk) (args : Arguments) : verdicts lib d args =
    (testFiles d args).flatMap (TestFile.run lib d (environment d args.executable)) :=
  TestFile.runAll_fst lib d _ _

/-- There is an environment exactly for a file, with the path that the file is run by. -/
theorem resolve?_of_file {executable : String} {f : File} (h : d.file? executable = some f) :
    ∃ records, Environment.resolve? d executable = some (environment d executable, records) := by
  unfold Environment.resolve? environment
  rw [h]
  dsimp only
  split_ifs
  · exact ⟨_, rfl⟩
  · exact ⟨_, rfl⟩

/-- Without a program a run does nothing but say so. -/
theorem execute_of_no_program (h : d.file? args.executable = none) :
    execute lib d args = { exitCode := 1, stderr := missingProgram args.executable } := by
  simp only [execute, Environment.resolve?, h]

/-- If the search fails, a run says so among the errors and prints nothing. -/
theorem execute_of_failed_search {f : File} (h : d.file? args.executable = some f)
    {b : Discovery.Blocked} (hfind : Discovery.find d args.root = .error b) :
    (execute lib d args).exitCode = 1 ∧ (execute lib d args).stdout = "" ∧
      (execute lib d args).stderr = searchFailed b := by
  obtain ⟨records, hr⟩ := resolve?_of_file h
  simp only [execute, hr, hfind, and_self]

/-- Without test files a run says so. -/
theorem execute_of_no_files {f : File} (h : d.file? args.executable = some f)
    (hfind : Discovery.find d args.root = .ok (found, log)) (hfiles : testFiles d args = []) :
    (execute lib d args).exitCode = 1 ∧ (execute lib d args).stdout = Report.noTestFiles := by
  obtain ⟨records, hr⟩ := resolve?_of_file h
  rw [testFiles, Discovery.found_of_ok hfind] at hfiles
  simp only [execute, hr, hfind, hfiles, List.isEmpty_nil, if_true, and_self]

/-- A run has test files only if the search for them has not failed. -/
theorem find_of_testFiles_ne_nil (hfiles : testFiles d args ≠ []) :
    ∃ found log, Discovery.find d args.root = .ok (found, log) := by
  cases hfind : Discovery.find d args.root with
  | ok r => exact ⟨r.1, r.2, rfl⟩
  | error b =>
    refine absurd ?_ hfiles
    rw [testFiles, Discovery.found_of_error hfind]
    exact List.sublist_nil.mp (Discovery.filterPaths_sublist _ _)

/-- With test files a run reports the verdicts on them. -/
theorem execute_of_files {f : File} (h : d.file? args.executable = some f)
    (hfiles : testFiles d args ≠ []) :
    (execute lib d args).exitCode = (if (summary lib d args).isSuccess then 0 else 1) ∧
      (execute lib d args).stdout = Report.whole (style args) (testFiles d args).length
        (verdicts lib d args) (summary lib d args) := by
  obtain ⟨records, hr⟩ := resolve?_of_file h
  obtain ⟨found, log, hfind⟩ := find_of_testFiles_ne_nil hfiles
  have htests : Discovery.filterPaths args.filter found = testFiles d args := by
    rw [testFiles, Discovery.found_of_ok hfind]
  have hne : (testFiles d args).isEmpty = false := by
    rw [List.isEmpty_eq_false_iff]
    exact hfiles
  simp only [execute, hr, hfind, htests, hne, Bool.false_eq_true, if_false]
  exact ⟨rfl, rfl⟩

/-- A search does not fail, and one of the test files that it finds survives the filter. -/
def Finds (d : Disk) (args : Arguments) : Prop :=
  ∃ found log, Discovery.find d args.root = .ok (found, log) ∧
    ∃ path ∈ found, Discovery.Survives args.filter path

/-- There are test files exactly if one of those that are found survives the filter. -/
theorem testFiles_ne_nil_iff : testFiles d args ≠ [] ↔ Finds d args := by
  constructor
  · intro h
    obtain ⟨found, log, hfind⟩ := find_of_testFiles_ne_nil h
    obtain ⟨path, hp⟩ := List.exists_mem_of_ne_nil _ h
    rw [testFiles, Discovery.found_of_ok hfind] at hp
    exact ⟨found, log, hfind, path, Discovery.mem_filterPaths.mp hp⟩
  · rintro ⟨found, log, hfind, path, hp⟩
    rw [testFiles, Discovery.found_of_ok hfind]
    exact List.ne_nil_of_mem (Discovery.mem_filterPaths.mpr hp)

/-- The test files of a run are in the order of their paths. -/
theorem pairwise_testFiles (d : Disk) (args : Arguments) :
    (testFiles d args).Pairwise (fun p q => Path.le p q = true) :=
  (Discovery.pairwise_found d args.root).sublist (Discovery.filterPaths_sublist _ _)

/-! ## Exit codes and reports -/

/-- With test files the exit code is zero if every verdict is a success and one otherwise. -/
theorem exitCode_of_files {f : File} (h : d.file? args.executable = some f)
    (hfiles : testFiles d args ≠ []) : (execute lib d args).exitCode =
      if ∀ v ∈ verdicts lib d args, v.passed = true then 0 else 1 := by
  rw [(execute_of_files h hfiles).1]
  exact if_congr (summary_about lib d args).isSuccess_iff rfl rfl

/-- What a run of a program on some files leaves behind, given the verdicts on them: without files
it says so and fails; otherwise it prints the report of the verdicts and passes if all of them
do. -/
structure Tells (style : Report.Style) (files : List String) (vs : List Verdict) (r : Result) :
    Prop where
  /-- There are no files. -/
  none : files = [] → r.exitCode = 1 ∧ r.stdout = Report.noTestFiles
  /-- There are files. -/
  some : files ≠ [] → r.exitCode = (if ∀ v ∈ vs, v.passed = true then 0 else 1) ∧
    r.stdout = Report.whole style files.length vs (Summary.collect vs)

/-- A run with a program whose search does not fail tells of the verdicts on its test files. -/
theorem execute_tells {program : File} (h : d.file? args.executable = some program)
    (hfind : Discovery.find d args.root = .ok (found, log)) :
    Tells (style args) (testFiles d args) (verdicts lib d args) (execute lib d args) := by
  refine ⟨execute_of_no_files h hfind, fun hfiles => ⟨exitCode_of_files h hfiles, ?_⟩⟩
  have hsummary : summary lib d args = Summary.collect (verdicts lib d args) :=
    (summary_about lib d args).unique (Summary.about_collect _)
  rw [(execute_of_files h hfiles).2, hsummary]

/-- Runs that are told of alike end alike. -/
theorem Tells.ends_alike {style : Report.Style} {files files' : List String} {vs : List Verdict}
    {r r' : Result} (h : Tells style files vs r) (h' : Tells style files' vs r')
    (hlength : files.length = files'.length) :
    r.exitCode = r'.exitCode ∧ r.stdout = r'.stdout := by
  by_cases hfiles : files = []
  · have hfiles' : files' = [] := by
      rw [← List.length_eq_zero_iff, ← hlength, hfiles, List.length_nil]
    obtain ⟨hcode, hout⟩ := h.none hfiles
    obtain ⟨hcode', hout'⟩ := h'.none hfiles'
    exact ⟨hcode.trans hcode'.symm, hout.trans hout'.symm⟩
  · have hfiles' : files' ≠ [] := by
      rw [ne_eq, ← List.length_eq_zero_iff, ← hlength, List.length_eq_zero_iff]
      exact hfiles
    obtain ⟨hcode, hout⟩ := h.some hfiles
    obtain ⟨hcode', hout'⟩ := h'.some hfiles'
    refine ⟨hcode.trans hcode'.symm, ?_⟩
    rw [hout, hout', hlength]

/-- What a run with test files prints, and when it succeeds. -/
structure Reported (format : Report.Format) (vs : List Verdict) (r : Result) : Prop where
  /-- In TAP format there is a test point for each verdict, numbered from one in their order,
  between the version and the plan. -/
  tap : format = .tap → r.stdout = "TAP version 14\n" ++
    String.join (vs.mapIdx fun k v => Report.testPoint (k + 1) v) ++ s!"1..{vs.length}\n"
  /-- A report for people on a success ends with the number of tests. -/
  success : format = .summary → r.exitCode = 0 →
    Report.EndsIn r.stdout s!":D   All {vs.length} tests OK.\n"
  /-- A report for people on a failure ends with the failed tests and their number. -/
  failure : format = .summary → r.exitCode = 1 → 0 < vs.countP (!·.passed) ∧
    Report.EndsIn r.stdout (Report.failureList vs ++
      s!">:(   {vs.countP (!·.passed)} of {vs.length} tests failed.\n")

/-- A run with test files reports its verdicts. -/
theorem execute_reported {f : File} (h : d.file? args.executable = some f)
    (hfiles : testFiles d args ≠ []) :
    Reported args.format (verdicts lib d args) (execute lib d args) := by
  have habout := summary_about lib d args
  obtain ⟨hcode, hout⟩ := execute_of_files h hfiles
  refine ⟨fun hf => ?_, fun hf hzero => ?_, fun hf hone => ?_⟩
  · rw [hout]
    exact Report.whole_tap hf _ (TestFile.runAll_explained lib d _ _) habout
  · have hsuccess : (summary lib d args).isSuccess = true := by
      by_contra hno
      rw [hcode, if_neg hno] at hzero
      contradiction
    rw [hout]
    exact Report.whole_summary_of_success hf _ habout hsuccess
  · have hfailure : (summary lib d args).isSuccess = false := by
      by_contra hno
      rw [Bool.not_eq_false] at hno
      rw [hcode, if_pos hno] at hone
      contradiction
    refine ⟨?_, ?_⟩
    · rw [List.countP_pos_iff]
      by_contra hno
      push Not at hno
      have hall : (summary lib d args).isSuccess = true := by
        rw [habout.isSuccess_iff]
        exact fun v hv => by simpa using hno v hv
      rw [hfailure] at hall
      contradiction
    · rw [hout]
      exact Report.whole_summary_of_failure hf _ habout hfailure

/-- A command line that is understood exits with zero exactly if the program is there, the search
does not fail, a test file survives the filter and every verdict is a success, and with one
otherwise. Without the program nothing is printed on the standard output and no file is looked for;
if the search fails nothing is printed there either, and the error is told; without a test file
there is the one line that says so; and else the verdicts are reported, on the test files in their
order. -/
theorem run_exits_and_reports (lib : Libraries) (d : Disk) {words : List String} {args : Arguments}
    (hparse : CommandLine.parse words = .ok args) :
    ((run lib d words).exitCode = 0 ↔ (∃ f, d.file? args.executable = some f) ∧ Finds d args ∧
      ∀ v ∈ verdicts lib d args, v.passed = true) ∧
    ((run lib d words).exitCode = 0 ∨ (run lib d words).exitCode = 1) ∧
    (d.file? args.executable = none →
      (run lib d words).stdout = "" ∧ (run lib d words).log = []) ∧
    (∀ f b, d.file? args.executable = some f → Discovery.find d args.root = .error b →
      (run lib d words).stdout = "" ∧ (run lib d words).stderr =
        "Error: Failed to search for test files: " ++ b.message ++ "\n") ∧
    (∀ f found log, d.file? args.executable = some f →
      Discovery.find d args.root = .ok (found, log) →
      (∀ path ∈ found, ¬Discovery.Survives args.filter path) →
      (run lib d words).stdout = " :-|   No testfiles found.\n") ∧
    (∀ f, d.file? args.executable = some f → Finds d args →
      (testFiles d args).Pairwise (fun p q => Path.le p q = true) ∧
      Reported args.format (verdicts lib d args) (run lib d words)) := by
  have hrun : run lib d words = execute lib d args := by rw [run, hparse]
  -- The ends of a run are the cases of the program, of the search and of the list of files.
  rw [hrun, ← testFiles_ne_nil_iff]
  cases hf : d.file? args.executable with
  | none =>
    rw [execute_of_no_program hf]
    simp
  | some f =>
    by_cases hfiles : testFiles d args = []
    · -- The search has failed, or nothing that it has found survives.
      have hcode : (execute lib d args).exitCode = 1 := by
        cases hfind : Discovery.find d args.root with
        | error b => exact (execute_of_failed_search hf hfind).1
        | ok r => exact (execute_of_no_files hf hfind hfiles).1
      refine ⟨by simp [hcode, hfiles], .inr hcode, nofun, fun _ b _ hfind => ?_,
        fun _ found log _ hfind _ => ?_, fun _ _ hno => absurd hfiles hno⟩
      · exact (execute_of_failed_search hf hfind).2
      · exact (execute_of_no_files hf hfind hfiles).2
    · obtain ⟨found, log, hfind⟩ := find_of_testFiles_ne_nil hfiles
      have hcode : (execute lib d args).exitCode = _ := exitCode_of_files hf hfiles
      refine ⟨?_, ?_, nofun, fun _ b _ hb => ?_, fun _ found' log' _ hfind' hno => ?_,
        fun _ _ _ => ?_⟩
      · rw [hcode]
        simp [hfiles]
      · rw [hcode]
        split_ifs
        · exact .inl rfl
        · exact .inr rfl
      · rw [hfind] at hb
        cases hb
      · obtain ⟨_, _, hfound, path, hmem, hsurvives⟩ := testFiles_ne_nil_iff.mp hfiles
        rw [hfind', Except.ok.injEq, Prod.mk.injEq] at hfound
        exact absurd hsurvives (hno path (hfound.1 ▸ hmem))
      · exact ⟨pairwise_testFiles d args, execute_reported hf hfiles⟩

/-- What is asked for by `-e p`. -/
def plainArguments : Arguments := { executable := "p" }

/-- A disk with a program that does nothing and one test file with an item that is no mapping. -/
def faultyDisk : Disk where
  root := .file "p" { executable := true, program := some (Script.program []) }
    (.folder "tests" (.file "a.yaml" { content := "- {}\n- []".toUTF8 } .empty) .empty)
  current := "/"

/-- The test file is found. -/
theorem find_faultyDisk :
    ∃ log, Discovery.find faultyDisk "tests" = .ok (["tests/a.yaml"], log) :=
  Discovery.find_of_not_blocked rfl (List.mergeSort_singleton _)

/-- There is one verdict on the test file. -/
theorem run_faultyDisk (lib : Libraries) (env : Environment) :
    TestFile.run lib faultyDisk env "tests/a.yaml" = [.fail "tests/a.yaml"
      "Error reading tests/a.yaml: test case at index 1 is not a mapping"] := by
  have hfile : Path.display faultyDisk.current "tests/a.yaml" = "tests/a.yaml" := by decide
  have hholds : TestFile.Holds faultyDisk "tests/a.yaml" "- {}\n- []" := ⟨_, rfl, rfl⟩
  rw [TestFile.run_of_error (TestFile.loads_items hholds), hfile]
  rfl

/-- What is asked for by `a --output-format=tap -qe p`. -/
def faultyArguments : Arguments :=
  { executable := "p", filter := some "a", format := .tap, quiet := true }

/-- A test file with an item that is no mapping is reported as one failed test. -/
theorem run_fails_on_faulty_file :
    (run plainLibraries faultyDisk ["a", "--output-format=tap", "-qe", "p"]).exitCode = 1 ∧
      (run plainLibraries faultyDisk ["a", "--output-format=tap", "-qe", "p"]).stdout =
        "TAP version 14\nnot ok 1 - tests/a.yaml\n  ---\n  message: |2\n" ++
        "    Error reading tests/a.yaml: test case at index 1 is not a mapping\n" ++
        "  ...\n1..1\n" := by
  have hparse : CommandLine.parse ["a", "--output-format=tap", "-qe", "p"] = .ok faultyArguments :=
    rfl
  obtain ⟨hzero, hcode, -, -, -, hreported⟩ :=
    run_exits_and_reports plainLibraries faultyDisk hparse
  obtain ⟨log, hfind⟩ := find_faultyDisk
  have hfiles : testFiles faultyDisk faultyArguments = ["tests/a.yaml"] := by
    have hfound : Discovery.found faultyDisk faultyArguments.root = ["tests/a.yaml"] :=
      Discovery.found_of_ok hfind
    rw [testFiles, hfound]
    rfl
  have hverdicts : verdicts plainLibraries faultyDisk faultyArguments = [.fail "tests/a.yaml"
      "Error reading tests/a.yaml: test case at index 1 is not a mapping"] := by
    rw [verdicts_eq, hfiles, List.flatMap_singleton, run_faultyDisk]
  have hfinds : Finds faultyDisk faultyArguments := by
    rw [← testFiles_ne_nil_iff, hfiles]
    exact List.cons_ne_nil _ _
  refine ⟨hcode.resolve_left fun h => ?_, ?_⟩
  · have hall := (hzero.mp h).2.2
    rw [hverdicts] at hall
    exact absurd (hall _ List.mem_cons_self) (by decide)
  · rw [(hreported _ rfl hfinds).2.tap rfl, hverdicts]
    decide +kernel

/-- A disk with a program and a directory for tests that may not be listed. -/
def hiddenDisk : Disk where
  root := .file "p" { executable := true, program := some (Script.program []) }
    (.folder "tests" (.empty false) .empty)
  current := "/"

/-- The program is there and no test file survives the filter, but as the directory cannot be listed
nothing is printed, not even that there are no test files. -/
theorem run_prints_nothing_for_hidden_tests :
    CommandLine.parse ["-e", "p"] = .ok plainArguments ∧
      (hiddenDisk.file? plainArguments.executable).isSome ∧ ¬Finds hiddenDisk plainArguments ∧
      (run plainLibraries hiddenDisk ["-e", "p"]).exitCode = 1 ∧
      (run plainLibraries hiddenDisk ["-e", "p"]).stdout = "" ∧
      (run plainLibraries hiddenDisk ["-e", "p"]).stdout ≠ Report.noTestFiles := by
  have hparse : CommandLine.parse ["-e", "p"] = .ok plainArguments := rfl
  have hrun : run plainLibraries hiddenDisk ["-e", "p"] =
      execute plainLibraries hiddenDisk plainArguments := by rw [run, hparse]
  have hmem : .error ⟨"tests", .denied⟩ ∈ Discovery.search hiddenDisk plainArguments.root :=
    List.mem_singleton_self _
  obtain ⟨b, hfind⟩ : ∃ b, Discovery.find hiddenDisk plainArguments.root = .error b := by
    rcases Discovery.find_cases hiddenDisk plainArguments.root with ⟨b, -, hfind⟩ | ⟨hno, -⟩
    · exact ⟨b, hfind⟩
    · exact absurd hmem (hno _)
  have hprogram : (hiddenDisk.file? plainArguments.executable).isSome := rfl
  obtain ⟨program, hprogram'⟩ := Option.isSome_iff_exists.mp hprogram
  obtain ⟨hcode, hout, -⟩ := execute_of_failed_search hprogram' hfind
  refine ⟨hparse, hprogram, ?_, hrun ▸ hcode, hrun ▸ hout, ?_⟩
  · rintro ⟨found, log, hfound, -⟩
    rw [hfind] at hfound
    cases hfound
  · rw [hrun, hout]
    decide

end BlackBox.Command
