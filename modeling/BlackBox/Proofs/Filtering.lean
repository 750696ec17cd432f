import Mathlib.Data.List.Flatten
import BlackBox.Proofs.Command

/-!
# Runs with a filter

The verdicts of a run fall into blocks, one for each test file that is found. A block is the same
whichever other files are run, so a filter takes away the blocks of the files in whose path it does
not occur and leaves the others as they are, in their order (`run_filter_removes_blocks`). It
follows that a filter never makes a run fail that passes without it, and that a longer filter runs
fewer tests.
-/

namespace BlackBox.Command

variable {lib : Libraries} {d : Disk} {args : Arguments} {filter : Option String} {f g : String}

/-! ## Blocks -/

/-- What a command line asks for, with another filter. -/
def withFilter (args : Arguments) (filter : Option String) : Arguments := { args with filter }

/-- The test files that are found, each with its verdicts. -/
def blocks (lib : Libraries) (d : Disk) (args : Arguments) : List (String × List Verdict) :=
  (Discovery.found d args.root).map fun path =>
    (path, TestFile.run lib d (environment d args.executable) path)

/-- The verdicts of some blocks, one block after the other. -/
def merged (bs : List (String × List Verdict)) : List Verdict := bs.flatMap Prod.snd

/-- The blocks of the files in whose path a text occurs. -/
def blocksWith (f : String) (bs : List (String × List Verdict)) : List (String × List Verdict) :=
  bs.filter fun b => f.toList <:+: b.1.toList

/-- Without a filter the test files are all that are found. -/
theorem testFiles_withFilter_none (lib : Libraries) (d : Disk) (args : Arguments) :
    testFiles d (withFilter args none) = (blocks lib d args).map Prod.fst := by
  rw [blocks, List.map_map]
  exact (List.map_id _).symm

/-- With a filter the test files are those that are found with it in their path. -/
theorem testFiles_withFilter_some (lib : Libraries) (d : Disk) (args : Arguments) (f : String) :
    testFiles d (withFilter args (some f)) = (blocksWith f (blocks lib d args)).map Prod.fst := by
  have hkeep : (fun path => Text.contains path f) =
      fun path : String => decide (f.toList <:+: path.toList) := by
    funext path
    rw [Bool.eq_iff_iff, Text.contains_iff, decide_eq_true_eq]
  have hfirst : (blocks lib d args).map Prod.fst = Discovery.found d args.root :=
    (testFiles_withFilter_none lib d args).symm
  show (Discovery.found d args.root).filter (fun path => Text.contains path f) = _
  rw [hkeep, ← hfirst, List.filter_map]
  rfl

/-- The verdicts on the files of some blocks are those of the blocks. -/
theorem flatMap_run_of_sublist {bs : List (String × List Verdict)}
    (h : bs.Sublist (blocks lib d args)) :
    (bs.map Prod.fst).flatMap (TestFile.run lib d (environment d args.executable)) = merged bs := by
  rw [merged, List.flatMap_map]
  refine List.flatMap_congr fun b hb => ?_
  -- A block holds the verdicts on its own file.
  obtain ⟨path, -, rfl⟩ := List.mem_map.mp (h.subset hb)
  rfl

/-- Without a filter the verdicts are those of all blocks. -/
theorem verdicts_withFilter_none (lib : Libraries) (d : Disk) (args : Arguments) :
    verdicts lib d (withFilter args none) = merged (blocks lib d args) := by
  rw [verdicts_eq, testFiles_withFilter_none lib]
  exact flatMap_run_of_sublist (List.Sublist.refl _)

/-- With a filter the verdicts are those of the blocks that it leaves. -/
theorem verdicts_withFilter_some (lib : Libraries) (d : Disk) (args : Arguments) (f : String) :
    verdicts lib d (withFilter args (some f)) = merged (blocksWith f (blocks lib d args)) := by
  rw [verdicts_eq, testFiles_withFilter_some lib]
  exact flatMap_run_of_sublist List.filter_sublist

/-- A text that occurs in another leaves every block that the other does. -/
theorem blocksWith_sublist (h : g.toList <:+: f.toList) (bs : List (String × List Verdict)) :
    (blocksWith f bs).Sublist (blocksWith g bs) := by
  refine List.monotone_filter_right bs fun b hb => ?_
  have hf : f.toList <:+: b.1.toList := of_decide_eq_true hb
  exact decide_eq_true (h.trans hf)

/-! ## Runs -/

/-- A run that passes has a program, and no verdict of it has not passed. -/
theorem of_exitCode_eq_zero (h : (execute lib d args).exitCode = 0) :
    (∃ program, d.file? args.executable = some program) ∧
      ∀ v ∈ verdicts lib d args, v.passed = true := by
  cases hprogram : d.file? args.executable with
  | none =>
    rw [execute_of_no_program hprogram] at h
    contradiction
  | some program =>
    refine ⟨⟨program, rfl⟩, ?_⟩
    by_cases hfiles : testFiles d args = []
    · -- Without files there are no verdicts.
      rw [verdicts_eq, hfiles]
      exact fun v hv => absurd hv List.not_mem_nil
    · by_contra hno
      rw [exitCode_of_files hprogram hfiles, if_neg hno] at h
      contradiction

/-- A run without a filter and one with the filter `f` that are the same otherwise: without the
program, or if the search for test files fails, they end alike. Else there is a block of verdicts
for each file that is found, the run without the filter tells of all blocks, and the run with it of
those in whose path the filter occurs. So the run with the filter passes if there is such a block
and the run without it passes, and what another filter that occurs in `f` leaves of the blocks has
the tests in it that `f` leaves, in their order. -/
theorem run_filter_removes_blocks (lib : Libraries) (d : Disk) (args : Arguments) (f : String)
    {words words' : List String} (hall : CommandLine.parse words = .ok (withFilter args none))
    (hfilter : CommandLine.parse words' = .ok (withFilter args (some f))) :
    (d.file? args.executable = none ∨ (∃ b, Discovery.find d args.root = .error b) →
      run lib d words' = run lib d words) ∧
    (∀ program found log, d.file? args.executable = some program →
      Discovery.find d args.root = .ok (found, log) →
      Tells (style args) ((blocks lib d args).map Prod.fst) (merged (blocks lib d args))
        (run lib d words) ∧
      Tells (style args) ((blocksWith f (blocks lib d args)).map Prod.fst)
        (merged (blocksWith f (blocks lib d args))) (run lib d words')) ∧
    ((run lib d words).exitCode = 0 → blocksWith f (blocks lib d args) ≠ [] →
      (run lib d words').exitCode = 0) ∧
    ∀ g : String, g.toList <:+: f.toList →
      (merged (blocksWith f (blocks lib d args))).Sublist
        (merged (blocksWith g (blocks lib d args))) := by
  have hrun : run lib d words = execute lib d (withFilter args none) := by rw [run, hall]
  have hrun' : run lib d words' = execute lib d (withFilter args (some f)) := by rw [run, hfilter]
  rw [hrun, hrun']
  refine ⟨?_, fun program found log hprogram hfind => ?_, fun hzero hkept => ?_, fun g hg => ?_⟩
  · rintro (hnone | ⟨b, hfind⟩)
    · have hall : d.file? (withFilter args none).executable = none := hnone
      have hkept : d.file? (withFilter args (some f)).executable = none := hnone
      rw [execute_of_no_program hall, execute_of_no_program hkept]
      rfl
    · have hall : Discovery.find d (withFilter args none).root = .error b := hfind
      have hkept : Discovery.find d (withFilter args (some f)).root = .error b := hfind
      rw [execute, execute, hall, hkept]
      rfl
  · have hall : d.file? (withFilter args none).executable = some program := hprogram
    have hkept : d.file? (withFilter args (some f)).executable = some program := hprogram
    rw [← testFiles_withFilter_none, ← testFiles_withFilter_some, ← verdicts_withFilter_none,
      ← verdicts_withFilter_some]
    exact ⟨execute_tells hall hfind, execute_tells hkept hfind⟩
  · obtain ⟨⟨program, hprogram⟩, hpassed⟩ := of_exitCode_eq_zero hzero
    have hprogram' : d.file? (withFilter args (some f)).executable = some program := hprogram
    have hfiles : testFiles d (withFilter args (some f)) ≠ [] := by
      rw [testFiles_withFilter_some lib]
      exact mt List.map_eq_nil_iff.mp hkept
    -- The verdicts that are left are among those that have passed.
    have hsub : (verdicts lib d (withFilter args (some f))).Sublist
        (verdicts lib d (withFilter args none)) := by
      rw [verdicts_withFilter_some, verdicts_withFilter_none]
      exact List.filter_sublist.flatMap Prod.snd
    rw [exitCode_of_files hprogram' hfiles]
    exact if_pos fun v hv => hpassed v (hsub.subset hv)
  · exact (blocksWith_sublist hg _).flatMap Prod.snd

/-- A disk with a program that does nothing, a test file with an item that is no mapping and an
empty one. -/
def mixedDisk : Disk where
  root := .file "p" { executable := true, program := some (Script.program []) }
    (.folder "tests" (.file "a.yaml" { content := "- {}\n- []".toUTF8 }
      (.file "b.yaml" {} .empty)) .empty)
  current := "/"

/-- The filter `s/b` takes away the failed verdict on one file and leaves the other, which has no
tests. -/
theorem run_filter_removes_blocks_mixed :
    (run plainLibraries mixedDisk ["-e", "p"]).exitCode = 1 ∧
      (run plainLibraries mixedDisk ["-e", "p", "s/b"]).exitCode = 0 ∧
      (run plainLibraries mixedDisk ["-e", "p", "s/b"]).stdout =
        "Running 1 testfiles:\n:D   All 0 tests OK.\n" := by
  have hall : CommandLine.parse ["-e", "p"] = .ok (withFilter plainArguments none) := rfl
  have hfilter : CommandLine.parse ["-e", "p", "s/b"] =
      .ok (withFilter plainArguments (some "s/b")) := rfl
  obtain ⟨log, hfind⟩ :
      ∃ log, Discovery.find mixedDisk "tests" = .ok (["tests/a.yaml", "tests/b.yaml"], log) :=
    Discovery.find_of_not_blocked rfl (List.mergeSort_of_pairwise (by decide))
  have hblocks : blocks plainLibraries mixedDisk plainArguments =
      [("tests/a.yaml", [.fail "tests/a.yaml"
          "Error reading tests/a.yaml: test case at index 1 is not a mapping"]),
        ("tests/b.yaml", [])] := by
    have hfound : Discovery.found mixedDisk plainArguments.root =
        ["tests/a.yaml", "tests/b.yaml"] := Discovery.found_of_ok hfind
    have hholds : TestFile.Holds mixedDisk "tests/a.yaml" "- {}\n- []" := ⟨_, rfl, rfl⟩
    rw [blocks, hfound, List.map_cons, TestFile.run_of_error (TestFile.loads_items hholds)]
    rfl
  have hkept : blocksWith "s/b" (blocks plainLibraries mixedDisk plainArguments) =
      [("tests/b.yaml", [])] := by
    rw [hblocks]
    rfl
  obtain ⟨-, htells, -, -⟩ :=
    run_filter_removes_blocks plainLibraries mixedDisk plainArguments "s/b" hall hfilter
  obtain ⟨htold, htold'⟩ := htells _ _ _ rfl hfind
  rw [hblocks] at htold
  rw [hkept] at htold'
  refine ⟨?_, (htold'.some (List.cons_ne_nil _ _)).1, (htold'.some (List.cons_ne_nil _ _)).2⟩
  rw [(htold.some (List.cons_ne_nil _ _)).1]
  decide

end BlackBox.Command
