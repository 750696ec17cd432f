import BlackBox.Proofs.Command
import BlackBox.Proofs.Files.Discovery
import BlackBox.Proofs.Files.FullRoot

/-!
# Runs with a relative and with an absolute root

A root may be given relative to the current directory or in full. In a tree without symbolic links
the searches of the two runs both fail, or they find files at the ends of the same ways. Of these
the runs read the same texts, and they display them alike, so that they give the same verdicts
(`Alike.run_eq`) and print the same report (`run_same_for_full_root`). A relative root that begins
with points and a repeated separator is different: nothing is found below it, whatever there is
below the same root in full.
-/

namespace BlackBox.Command

open Directory (ProperName)
open Discovery (Approachable Fits Stray child)

variable {lib : Libraries} {d : Disk} {args : Arguments} {root path path' : String}

/-! ## Files that are alike -/

/-- Two paths of which the same text is read, or with the same fault, and that are displayed
alike. -/
structure Alike (d : Disk) (path path' : String) : Prop where
  /-- The text is the same. -/
  text : d.readText path = d.readText path'
  /-- The displayed path is the same. -/
  displayed : Path.display d.current path = Path.display d.current path'

/-- The verdicts on a file depend on its text and on how its path is displayed. -/
theorem Alike.run_eq (h : Alike d path path') (env : Environment) :
    TestFile.run lib d env path = TestFile.run lib d env path' := by
  rw [TestFile.run, TestFile.run, TestFile.load, TestFile.load, h.text, h.displayed]

/-- At the ends of a way from anchored paths the files are alike, unless the way leads out of the
current directory. -/
theorem alike_foldl_child {base full : String} {names : List String} (hplain : d.root.Plain)
    (hsettled : d.Settled) (hanchored : d.Anchored base full)
    (hnames : ∀ n ∈ names, ProperName n) (hne : names ≠ [])
    (hfirst : (Path.located base).head? ≠ some .parent)
    (hsize : (names.foldl child full).utf8ByteSize ≤ Directory.maxPath) :
    Alike d (names.foldl child base) (names.foldl child full) := by
  refine ⟨hanchored.readText_eq hplain (hsettled.nul_not_mem hplain) hnames hne hsize,
    (hanchored.foldl_child hnames).display_eq hsettled.absolute ?_⟩
  rw [Discovery.located_foldl_child hanchored.ne_empty hnames]
  -- The first component is that of the directory, or else a name.
  cases hcs : Path.located base with
  | nil =>
    obtain ⟨name, names, rfl⟩ := List.exists_cons_of_ne_nil hne
    exact fun h => Path.Component.noConfusion (Option.some.inj h)
  | cons c cs =>
    rw [hcs] at hfirst
    exact hfirst

/-! ## Runs -/

/-- What a command line asks for, with another root and without a filter. -/
def withRoot (args : Arguments) (root : String) : Arguments := { args with root, filter := none }

/-- Without a filter the test files of a run are those that are found. -/
theorem testFiles_withRoot (d : Disk) (args : Arguments) (root : String) :
    testFiles d (withRoot args root) = Discovery.found d root := rfl

/-- The searches of the two runs both fail, or they find files that are alike. -/
theorem searches_alike (hplain : d.root.Plain) (hsettled : d.Settled)
    (hrelative : Path.isAbsolute root = false) (hfirst : (Path.located root).head? ≠ some .parent)
    (hstray : ¬Stray root) (hfits : Fits d (d.inFull root)) (happroach : Approachable d) :
    (∃ b b', Discovery.find d root = .error b ∧ Discovery.find d (d.inFull root) = .error b') ∨
      ∃ files files' log log', Discovery.find d root = .ok (files, log) ∧
        Discovery.find d (d.inFull root) = .ok (files', log') ∧
        List.Forall₂ (Alike d) files files' := by
  refine (Discovery.find_anchored hplain hsettled hrelative hstray hfits happroach).imp_right ?_
  rintro ⟨base, full, ws, log, log', hanchored, hlocated, hws, hfind, hfind'⟩
  refine ⟨_, _, log, log', hfind, hfind', ?_⟩
  rw [List.forall₂_map_left_iff, List.forall₂_map_right_iff, List.forall₂_same]
  intro names hnames
  obtain ⟨hne, hproper, hsize⟩ := hws names hnames
  exact alike_foldl_child hplain hsettled hanchored hproper hne (hlocated ▸ hfirst) hsize

/-- What is made of alike files one by one is the same, if it does not depend on more than what they
have in common. -/
theorem map_eq_of_alike {α : Type} {f : String → α} {files files' : List String}
    (h : List.Forall₂ (Alike d) files files') (hf : ∀ p p', Alike d p p' → f p = f p') :
    files.map f = files'.map f := by
  have heq : List.Forall₂ (· = ·) (files.map f) (files'.map f) := by
    rw [List.forall₂_map_left_iff, List.forall₂_map_right_iff]
    exact h.imp hf
  rwa [List.forall₂_eq_eq_eq] at heq

/-- Runs on alike files give the same verdicts. -/
theorem verdicts_withRoot_alike {root' : String}
    (h : List.Forall₂ (Alike d) (Discovery.found d root) (Discovery.found d root')) :
    verdicts lib d (withRoot args root) = verdicts lib d (withRoot args root') := by
  rw [verdicts_eq, verdicts_eq, testFiles_withRoot, testFiles_withRoot, List.flatMap_def,
    List.flatMap_def]
  exact congrArg List.flatten (map_eq_of_alike h fun _ _ halike => halike.run_eq _)

/-- Runs that differ in the root end alike if the searches of both fail, or if they find files that
are alike. -/
theorem execute_withRoot_alike {root' : String}
    (h : (∃ b b', Discovery.find d root = .error b ∧ Discovery.find d root' = .error b') ∨
      ∃ files files' log log', Discovery.find d root = .ok (files, log) ∧
        Discovery.find d root' = .ok (files', log') ∧ List.Forall₂ (Alike d) files files') :
    (execute lib d (withRoot args root)).exitCode =
        (execute lib d (withRoot args root')).exitCode ∧
      (execute lib d (withRoot args root)).stdout =
        (execute lib d (withRoot args root')).stdout := by
  cases hprogram : d.file? args.executable with
  | none =>
    have hnone : d.file? (withRoot args root).executable = none := hprogram
    have hnone' : d.file? (withRoot args root').executable = none := hprogram
    rw [execute_of_no_program hnone, execute_of_no_program hnone']
    exact ⟨rfl, rfl⟩
  | some program =>
    have hsome : d.file? (withRoot args root).executable = some program := hprogram
    have hsome' : d.file? (withRoot args root').executable = some program := hprogram
    rcases h with ⟨b, b', hfind, hfind'⟩ | ⟨files, files', log, log', hfind, hfind', halike⟩
    · obtain ⟨hcode, hout, -⟩ := execute_of_failed_search hsome hfind
      obtain ⟨hcode', hout', -⟩ := execute_of_failed_search hsome' hfind'
      exact ⟨hcode.trans hcode'.symm, hout.trans hout'.symm⟩
    · have hfound : List.Forall₂ (Alike d) (Discovery.found d root) (Discovery.found d root') := by
        rwa [Discovery.found_of_ok hfind, Discovery.found_of_ok hfind']
      have htells : Tells _ _ (verdicts lib d (withRoot args root)) _ := execute_tells hsome hfind
      have htells' : Tells _ _ (verdicts lib d (withRoot args root')) _ :=
        execute_tells hsome' hfind'
      rw [verdicts_withRoot_alike hfound] at htells
      exact htells.ends_alike htells' hfound.length_eq

/-- A run with a relative root that does not lead out of the current directory and one with the same
root in full, both without a filter and the same otherwise, in a tree without symbolic links: the
two end alike. They display the same files in the same order and give the same verdicts, with the
same test ids and messages. The full paths must not be too long, the directories that are listed on
the way to the current directory must be such as may be listed, and the relative root must not begin
with points and a repeated separator: with such a root no test file is found. -/
theorem run_same_for_full_root (lib : Libraries) (d : Disk) (args : Arguments) (root : String)
    {words words' : List String} (hplain : d.root.Plain) (hsettled : d.Settled)
    (hrelative : Path.isAbsolute root = false) (hfirst : (Path.located root).head? ≠ some .parent)
    (hparse : CommandLine.parse words = .ok (withRoot args root))
    (hparse' : CommandLine.parse words' = .ok (withRoot args (d.inFull root))) :
    (¬Stray root → Fits d (d.inFull root) → Approachable d →
      (run lib d words).exitCode = (run lib d words').exitCode ∧
      (run lib d words).stdout = (run lib d words').stdout ∧
      (testFiles d (withRoot args root)).map (Path.display d.current) =
        (testFiles d (withRoot args (d.inFull root))).map (Path.display d.current) ∧
      verdicts lib d (withRoot args root) = verdicts lib d (withRoot args (d.inFull root))) ∧
    (Stray root → ∀ program, d.file? args.executable = some program →
      (run lib d words).exitCode = 1 ∧ (run lib d words).stdout = Report.noTestFiles) := by
  have hrun : run lib d words = execute lib d (withRoot args root) := by rw [run, hparse]
  have hrun' : run lib d words' = execute lib d (withRoot args (d.inFull root)) := by
    rw [run, hparse']
  rw [hrun, hrun']
  constructor
  · intro hstray hfits happroach
    have hsearches :=
      searches_alike hplain hsettled hrelative hfirst hstray hfits happroach
    -- What is displayed and the verdicts are made of the files one by one, and these are alike.
    have halike : List.Forall₂ (Alike d) (Discovery.found d root)
        (Discovery.found d (d.inFull root)) := by
      rcases hsearches with ⟨b, b', hfind, hfind'⟩ | ⟨files, files', log, log', hfind, hfind', h⟩
      · rw [Discovery.found_of_error hfind, Discovery.found_of_error hfind']
        exact .nil
      · rwa [Discovery.found_of_ok hfind, Discovery.found_of_ok hfind']
    obtain ⟨hcode, hout⟩ := execute_withRoot_alike hsearches
    exact ⟨hcode, hout, map_eq_of_alike halike fun _ _ h => h.displayed,
      verdicts_withRoot_alike halike⟩
  · intro hstray program hprogram
    obtain ⟨log, hfind⟩ := Discovery.find_of_stray hstray
    have hnone : testFiles d (withRoot args root) = [] := by
      rw [testFiles_withRoot, Discovery.found_of_ok hfind]
    exact execute_of_no_files hprogram hfind hnone

/-- A disk with a current directory below the root of the file system. There is a program that does
nothing in it, and an empty test file in a directory. -/
def nestedDisk : Disk where
  root := .folder "w" (.file "p" { executable := true, program := some (Script.program []) }
    (.folder "t" (.file "a.yaml" {} .empty) .empty)) .empty
  current := "/w"

/-- There are no symbolic links on the disk. -/
theorem plain_nestedDisk : nestedDisk.root.Plain := by decide

/-- The current directory of the disk is there. -/
theorem settled_nestedDisk : nestedDisk.Settled := ⟨by decide, _, _, rfl⟩

/-- No directory has to be listed on the way to the current directory of the disk. -/
theorem approachable_nestedDisk : Approachable nestedDisk :=
  fun _ _ hway => absurd hway (Discovery.not_onTheWay_of_literal (by decide))

/-- No path of a search below the directory in full is too long. -/
theorem fits_nestedDisk : Fits nestedDisk (nestedDisk.inFull "./t/.") := by
  have hbase : Discovery.rootPath? (nestedDisk.inFull "./t/.") = some "/w/./t/." := rfl
  have hfolder : nestedDisk.folder? "/w/./t/." = some (.file "a.yaml" {} .empty) := rfl
  have hentry : ∀ {names e}, (Directory.file "a.yaml" {} .empty).HasEntry names e →
      names = ["a.yaml"] ∧ e = .file {} := by
    intro names e h
    rw [Directory.hasEntry_file rfl, or_iff_left Directory.not_hasEntry_empty] at h
    exact h
  refine ⟨fun base h => ?_, fun place dir h => ?_, fun base here names h hhere hfile _ => ?_⟩
  · rw [hbase, Option.some.injEq] at h
    rw [← h]
    decide
  · cases h with
    | onTheWay hway => exact absurd hway (Discovery.not_onTheWay_of_literal (by decide))
    | below h hhere hdir =>
      rw [hbase, Option.some.injEq] at h
      subst h
      rw [hfolder, Option.some.injEq] at hhere
      subst hhere
      rcases hdir with ⟨rfl, -⟩ | hdir
      · decide
      · cases (hentry hdir).2
  · rw [hbase, Option.some.injEq] at h
    subst h
    rw [hfolder, Option.some.injEq] at hhere
    subst hhere
    obtain ⟨f, hfile⟩ := hfile
    rw [(hentry hfile).1]
    decide

/-- With `./t/.` as the root and with the same root in full, the run is that of the one test file
there is. -/
theorem run_same_for_full_root_nested :
    (run plainLibraries nestedDisk ["-e", "p", "--root=./t/."]).stdout =
        (run plainLibraries nestedDisk ["-e", "p", "--root=/w/./t/."]).stdout ∧
      (run plainLibraries nestedDisk ["-e", "p", "--root=./t/."]).exitCode =
        (run plainLibraries nestedDisk ["-e", "p", "--root=/w/./t/."]).exitCode ∧
      (testFiles nestedDisk (withRoot plainArguments "./t/.")).map (Path.display "/w") =
        ["t/a.yaml"] := by
  have hparse : CommandLine.parse ["-e", "p", "--root=./t/."] =
      .ok (withRoot plainArguments "./t/.") := rfl
  have hparse' : CommandLine.parse ["-e", "p", "--root=/w/./t/."] =
      .ok (withRoot plainArguments (nestedDisk.inFull "./t/.")) := rfl
  have hfirst : (Path.located "./t/.").head? = some (.name "t") := rfl
  have hstray : ¬Stray "./t/." := by
    have hpath : Discovery.rootPath? "./t/." = some "t/." := rfl
    rw [← Discovery.rootPath?_eq_none_iff, hpath]
    exact Option.some_ne_none _
  obtain ⟨log, hfind⟩ : ∃ log, Discovery.find nestedDisk (nestedDisk.inFull "./t/.") =
      .ok (["/w/./t/./a.yaml"], log) :=
    Discovery.find_of_not_blocked rfl (List.mergeSort_singleton _)
  obtain ⟨hcode, hout, hdisplayed, -⟩ := (run_same_for_full_root plainLibraries nestedDisk
    plainArguments "./t/." plain_nestedDisk settled_nestedDisk rfl (by rw [hfirst]; decide) hparse
    hparse').1 hstray fits_nestedDisk approachable_nestedDisk
  refine ⟨hout, hcode, hdisplayed.trans ?_⟩
  rw [testFiles_withRoot, Discovery.found_of_ok hfind]
  rfl

/-- The root `.//t` leads to a directory with a test file, and the run with it in full passes, but
the run with it finds no test file and fails. -/
theorem run_differs_for_stray_root :
    nestedDisk.root.Plain ∧ nestedDisk.Settled ∧
      (Path.located ".//t").head? = some (.name "t") ∧ nestedDisk.inFull ".//t" = "/w/.//t" ∧
      (run plainLibraries nestedDisk ["-e", "p", "--root=.//t"]).exitCode = 1 ∧
      (run plainLibraries nestedDisk ["-e", "p", "--root=/w/.//t"]).exitCode = 0 := by
  have hparse : CommandLine.parse ["-e", "p", "--root=.//t"] =
      .ok (withRoot plainArguments ".//t") := rfl
  have hparse' : CommandLine.parse ["-e", "p", "--root=/w/.//t"] =
      .ok (withRoot plainArguments "/w/.//t") := rfl
  have hstray : Stray ".//t" := ⟨0, ['t'], rfl⟩
  obtain ⟨log, hnone⟩ :
      ∃ log, Discovery.find nestedDisk (withRoot plainArguments ".//t").root = .ok ([], log) :=
    Discovery.find_of_stray hstray
  obtain ⟨log', hfind⟩ : ∃ log, Discovery.find nestedDisk "/w/.//t" =
      .ok (["/w/./t/a.yaml"], log) :=
    Discovery.find_of_not_blocked rfl (List.mergeSort_singleton _)
  have hfiles : testFiles nestedDisk (withRoot plainArguments "/w/.//t") = ["/w/./t/a.yaml"] := by
    rw [testFiles_withRoot, Discovery.found_of_ok hfind]
  have hverdicts : verdicts plainLibraries nestedDisk (withRoot plainArguments "/w/.//t") = [] := by
    rw [verdicts, hfiles]
    rfl
  obtain ⟨program, hprogram⟩ : ∃ program, nestedDisk.file? "p" = some program := ⟨_, rfl⟩
  refine ⟨plain_nestedDisk, settled_nestedDisk, rfl, rfl, ?_, ?_⟩
  · have hfiles : testFiles nestedDisk (withRoot plainArguments ".//t") = [] :=
      Discovery.found_of_ok hnone
    have hcode : (execute plainLibraries nestedDisk
        (withRoot plainArguments ".//t")).exitCode = 1 :=
      (execute_of_no_files hprogram hnone hfiles).1
    rw [run, hparse]
    exact hcode
  · have hne : testFiles nestedDisk (withRoot plainArguments "/w/.//t") ≠ [] := by
      rw [hfiles]
      exact List.cons_ne_nil _ _
    have hcode : (execute plainLibraries nestedDisk
        (withRoot plainArguments "/w/.//t")).exitCode = _ := exitCode_of_files hprogram hne
    rw [run, hparse']
    rw [hverdicts] at hcode
    exact hcode

end BlackBox.Command
