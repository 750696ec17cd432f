import BlackBox.Proofs.Running
import BlackBox.Proofs.Summary

/-!
# Runs of several test files

The verdicts that a run reports are those on its files, one file after the other, and its summary is
about that very sequence (`runAll_reports_every_verdict`). What a run sees of a disk is limited:
`SameFor` says that two disks have the same current directory, start the same programs and have the
same texts at some paths, and then the verdicts on those paths are the same. So a change to one file
changes the verdicts on that file and no others.
-/

namespace BlackBox.TestFile

/-! ## The fold over files -/

/-- From any point of a run: the verdicts on further files are appended to those that have been
reported, and the summary stays about what has been reported. -/
theorem foldl_run (lib : Libraries) (d : Disk) (env : Environment) (paths : List String)
    (reported : List Verdict) (summary : Summary) (h : summary.About reported) :
    let r := paths.foldl (fun (reported, summary) path =>
      let verdicts := run lib d env path
      (reported ++ verdicts, summary.merge (.collect verdicts))) (reported, summary)
    r.1 = reported ++ paths.flatMap (run lib d env) ∧ r.2.About r.1 := by
  induction paths generalizing reported summary with
  | nil => simpa using h
  | cons path paths ih =>
    have hnext := h.merge (Summary.about_collect (run lib d env path))
    obtain ⟨hreported, habout⟩ := ih (reported ++ run lib d env path) _ hnext
    refine ⟨?_, habout⟩
    rw [List.flatMap_cons, ← List.append_assoc]
    exact hreported

/-- A run reports the verdicts on its files in order. -/
theorem runAll_fst (lib : Libraries) (d : Disk) (env : Environment) (paths : List String) :
    (runAll lib d env paths).1 = paths.flatMap (run lib d env) :=
  (foldl_run lib d env paths [] {} Summary.about_empty).1

/-- The summary of a run is about the verdicts that it reports. -/
theorem runAll_about (lib : Libraries) (d : Disk) (env : Environment) (paths : List String) :
    (runAll lib d env paths).2.About (runAll lib d env paths).1 :=
  (foldl_run lib d env paths [] {} Summary.about_empty).2

/-- The verdicts on a file have a message exactly if the test has failed. -/
theorem run_explained (lib : Libraries) (d : Disk) (env : Environment) (path : String) :
    ∀ v ∈ run lib d env path, v.Explained := by
  intro v hv
  unfold run at hv
  cases hload : load d path with
  | ok cases =>
    simp only [hload, List.mem_map] at hv
    obtain ⟨entries, -, rfl⟩ := hv
    exact runEntry_explained lib d env _ entries
  | error e =>
    simp only [hload, List.mem_singleton] at hv
    subst hv
    apply Verdict.explained_fail
    intro h
    -- The message begins with words of its own, in front of the path and the reason.
    have hfirst := (String.append_eq_empty_iff.mp (String.append_eq_empty_iff.mp
      (String.append_eq_empty_iff.mp h).1).1).1
    exact absurd hfirst (by decide)

/-- The verdicts of a run have a message exactly if the test has failed. -/
theorem runAll_explained (lib : Libraries) (d : Disk) (env : Environment) (paths : List String) :
    ∀ v ∈ (runAll lib d env paths).1, v.Explained := by
  intro v hv
  rw [runAll_fst, List.mem_flatMap] at hv
  obtain ⟨path, -, hv⟩ := hv
  exact run_explained lib d env path v hv

/-! ## What a run sees of a disk -/

/-- Two disks that look the same to a run of some files: it stands in the same directory, starts the
same programs and reads the same texts, or has the same faults. -/
structure SameFor (d d' : Disk) (env : Environment) (paths : List String) : Prop where
  /-- The current directory is the same. -/
  current : d'.current = d.current
  /-- The same programs are started. -/
  program : ∀ args, d'.program? env.executable args = d.program? env.executable args
  /-- The same texts are read. -/
  text : ∀ path ∈ paths, d'.readText path = d.readText path

/-- The verdict on an entry depends on a disk by the programs that are started. -/
theorem runEntry_congr {lib : Libraries} {d d' : Disk} {env : Environment}
    (h : ∀ args, d'.program? env.executable args = d.program? env.executable args) :
    runEntry lib d' env = runEntry lib d env := by
  have hrun : Runner.run lib d' env = Runner.run lib d env := by
    funext t
    rw [Runner.run, Runner.run, h]
  funext file entries
  rw [runEntry, runEntry, hrun]

/-- Disks that look the same to a run of a file give the same verdicts. -/
theorem SameFor.run_eq {lib : Libraries} {d d' : Disk} {env : Environment} {paths : List String}
    (h : SameFor d d' env paths) {path : String} (hp : path ∈ paths) :
    run lib d' env path = run lib d env path := by
  rw [run, run, load, load, h.text path hp, h.current, runEntry_congr h.program]

/-- Disks that look the same to a run of some files give the same verdicts on all of them. -/
theorem SameFor.flatMap_eq {lib : Libraries} {d d' : Disk} {env : Environment} {paths : List String}
    (h : SameFor d d' env paths) {ps : List String} (hps : ps ⊆ paths) :
    ps.flatMap (run lib d' env) = ps.flatMap (run lib d env) :=
  List.flatMap_congr fun _ hp => h.run_eq (hps hp)

/-- A run reports exactly the verdicts on its files in order, and its summary is about them. On a
disk that differs in the text of one file, only the block of that file among the verdicts may
differ. -/
theorem runAll_reports_every_verdict (lib : Libraries) (d : Disk) (env : Environment)
    (paths : List String) :
    let reported := (runAll lib d env paths).1
    let summary := (runAll lib d env paths).2
    reported = (paths.map (run lib d env)).flatten ∧
    summary.total = reported.length ∧
    summary.passed = reported.countP (·.passed) ∧
    summary.failures = (reported.filter (!·.passed)).map (fun v => (v.testId, v.message)) ∧
    summary.passed + summary.failed = summary.total ∧
    (summary.isSuccess = true ↔ ∀ v ∈ reported, v.passed = true) ∧
    ∀ (before : List String) (path : String) (after : List String) (d' : Disk),
      paths = before ++ path :: after → SameFor d d' env (before ++ after) →
      reported =
        before.flatMap (run lib d env) ++ run lib d env path ++ after.flatMap (run lib d env) ∧
      (runAll lib d' env paths).1 =
        before.flatMap (run lib d env) ++ run lib d' env path ++ after.flatMap (run lib d env) := by
  have habout := runAll_about lib d env paths
  refine ⟨?_, habout.total, habout.passed, habout.failures, habout.passed_add_failed,
    habout.isSuccess_iff, fun before path after d' hpaths hsame => ?_⟩
  · rw [runAll_fst, List.flatMap_def]
  · -- On any disk the verdicts fall into those before the file, its own, and those after it.
    have hblocks : ∀ disk, (runAll lib disk env paths).1 =
        before.flatMap (run lib disk env) ++ run lib disk env path ++
          after.flatMap (run lib disk env) := by
      intro disk
      rw [runAll_fst, hpaths, List.flatMap_append, List.flatMap_cons, List.append_assoc]
    refine ⟨hblocks d, ?_⟩
    rw [hblocks d', hsame.flatMap_eq (List.subset_append_left before after),
      hsame.flatMap_eq (List.subset_append_right before after)]

/-- A disk with a program that does nothing, a test file with one test, and a file with a given
text. -/
def diskWith (text : String) : Disk where
  root := .file "p" { executable := true, program := some (Script.program []) }
    (.file "a.yaml" { content := "- {}".toUTF8 } (.file "b.yaml" { content := text.toUTF8 } .empty))
  current := "/"

/-- Between a file with a test and one that is missing, the block of a file that is no document is
the only one that the text of that file accounts for. -/
theorem runAll_of_malformed_neighbour :
    (runAll plainLibraries (diskWith "[") ⟨"/p"⟩ ["/a.yaml", "/b.yaml", "/c.yaml"]).1 =
      run plainLibraries (diskWith "") ⟨"/p"⟩ "/a.yaml" ++
        run plainLibraries (diskWith "[") ⟨"/p"⟩ "/b.yaml" ++
        run plainLibraries (diskWith "") ⟨"/p"⟩ "/c.yaml" := by
  obtain ⟨-, -, -, -, -, -, hblocks⟩ := runAll_reports_every_verdict plainLibraries
    (diskWith "") ⟨"/p"⟩ ["/a.yaml", "/b.yaml", "/c.yaml"]
  have hsame : SameFor (diskWith "") (diskWith "[") ⟨"/p"⟩ (["/a.yaml"] ++ ["/c.yaml"]) := by
    refine ⟨rfl, fun args => ?_, ?_⟩
    · rw [Disk.program?, Disk.program?]
      rfl
    · intro path hp
      rcases List.mem_pair.mp hp with rfl | rfl
      · rfl
      · rfl
  simpa using (hblocks ["/a.yaml"] "/b.yaml" ["/c.yaml"] (diskWith "[") rfl hsame).2

end BlackBox.TestFile
