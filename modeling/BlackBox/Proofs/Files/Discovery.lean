import BlackBox.Proofs.Files.Search

/-!
# Discovery of test files

A root is called by a path that leads to the same directory (`resolve_rootPath?`), so that what is
found in a plain tree are the test files below the root (`mem_files_iff`). The path of a file tells
the names on the way to it (`located_foldl_child`), so that each file is found once and the paths
ascend (`pairwise_lt_of_find`).
-/

namespace BlackBox.Discovery

open Directory (ProperName HasFile Plain)
open BlackBox.Path (isAbsolute steps located)

variable {d : Disk} {root base name p : String} {here : Directory} {around : List Directory}
  {names files : List String} {log : List Log.Record}

/-! ## The names on the way to a file -/

/-- An entry adds its name to the components of a path. -/
theorem located_child (hbase : base ≠ "") (hname : ProperName name) :
    located (child base name) = located base ++ [.name name] := by
  have hsep : '/' ∉ name.toList := hname.no_separator
  have hpart : Path.Component.ofPart? name.toList = some (.name name) := ofPart?_of_properName hname
  have hname : steps name.toList = [name.toList] := by
    rw [Path.steps_of_not_mem hsep, List.filter_cons_of_pos hname.leads]
    rfl
  rw [Path.located_eq, Path.located_eq, isAbsolute_child hbase hsep, steps_child hbase hsep, hname,
    List.filterMap_append, List.append_assoc, List.filterMap_cons_some hpart]
  rfl

/-- The path of a file has the names on the way to it after the components of the directory. -/
theorem located_foldl_child (hbase : base ≠ "") (hnames : ∀ n ∈ names, ProperName n) :
    located (names.foldl child base) = located base ++ names.map .name := by
  induction names generalizing base with
  | nil => exact (List.append_nil _).symm
  | cons name names ih =>
    rw [List.forall_mem_cons] at hnames
    rw [List.foldl_cons, ih (child_ne_empty hbase hnames.1) hnames.2,
      located_child hbase hnames.1, List.append_assoc, List.map_cons, List.singleton_append]

/-- Files whose paths have the same components are reached by the same names. -/
theorem names_unique {names' : List String} (hbase : base ≠ "") (hnames : ∀ n ∈ names, ProperName n)
    (hnames' : ∀ n ∈ names', ProperName n)
    (h : located (names.foldl child base) = located (names'.foldl child base)) :
    names = names' := by
  rw [located_foldl_child hbase hnames, located_foldl_child hbase hnames',
    List.append_cancel_left_eq] at h
  exact List.map_injective_iff.mpr (fun _ _ => Path.Component.name.inj) h

/-! ## The root -/

/-- The path by which a root is called is no longer than the root. -/
theorem size_le_of_rootPath? (hne : root ≠ "") (hsize : root.utf8ByteSize ≤ Directory.maxPath)
    (hbase : rootPath? root = some base) : base.utf8ByteSize ≤ Directory.maxPath :=
  (Path.size_le_of_sublist (sublist_of_rootPath? hne hbase)).trans hsize

/-- The path by which a root is called leads to the same directory. -/
theorem resolve_rootPath? (h : d.root.Plain) (hne : root ≠ "")
    (hsize : root.utf8ByteSize ≤ Directory.maxPath) (hbase : rootPath? root = some base) :
    d.resolve base = .ok (.folder here around) ↔ d.resolve root = .ok (.folder here around) := by
  obtain ⟨hbase_ne, hsteps, habs⟩ := entered_of_rootPath? hbase
  have hway : d.way base = d.way root := by rw [Disk.way, Disk.way, hsteps, habs]
  -- Besides the steps it is asked of a path that there is no NUL in it and that it is not too long.
  have hnul : '\x00' ∈ base.toList ↔ '\x00' ∈ root.toList := by
    rw [Path.mem_iff_mem_steps (by decide) (by decide), hsteps,
      ← Path.mem_iff_mem_steps (by decide) (by decide)]
  rw [Disk.resolve_eq_folder_iff h, Disk.resolve_eq_folder_iff h, hway, hnul]
  simp only [ne_eq, hne, hbase_ne, hsize, size_le_of_rootPath? hne hsize hbase]

/-! ## The files below a root -/

/-- The test files that are found below a root are those of the directory that it leads to, if it
leads to one. -/
theorem mem_files_iff (h : d.root.Plain) (hne : root ≠ "")
    (hsize : root.utf8ByteSize ≤ Directory.maxPath) (hbase : rootPath? root = some base)
    (hfind : find d root = .ok (files, log)) :
    p ∈ files ↔ ∃ here around names, d.resolve root = .ok (.folder here around) ∧
      here.HasFile names ∧ EndsAsTestFile names ∧ p = names.foldl child base ∧
        p.utf8ByteSize ≤ Directory.maxPath := by
  rw [files_eq_map h hbase (size_le_of_rootPath? hne hsize hbase) hfind, List.mem_map]
  simp only [List.mem_mergeSort, mem_fileWays h]
  constructor
  · rintro ⟨names, ⟨here, hfolder, hfile, hend, hlong⟩, rfl⟩
    obtain ⟨around, hfolder⟩ := Disk.folder?_eq_some_iff.mp hfolder
    exact ⟨here, around, names, (resolve_rootPath? h hne hsize hbase).mp hfolder, hfile, hend, rfl,
      hlong⟩
  · rintro ⟨here, around, names, hfolder, hfile, hend, rfl, hlong⟩
    have hfolder := (resolve_rootPath? h hne hsize hbase).mpr hfolder
    exact ⟨names, ⟨here, Disk.folder?_eq_some_iff.mpr ⟨around, hfolder⟩, hfile, hend, hlong⟩, rfl⟩

/-- Files that are found by paths with the same components are found by the same way. -/
theorem fileWays_unique {names' : List String} (h : d.root.Plain)
    (hbase : rootPath? root = some base) (hnames : names ∈ fileWays d base)
    (hnames' : names' ∈ fileWays d base)
    (heq : located (names.foldl child base) = located (names'.foldl child base)) :
    names = names' :=
  names_unique (entered_of_rootPath? hbase).1 (properName_of_mem_fileWays h hnames).2
    (properName_of_mem_fileWays h hnames').2 heq

/-- No test file is found twice. -/
theorem nodup_of_find (h : d.root.Plain) (hbase : rootPath? root = some base)
    (hsize : base.utf8ByteSize ≤ Directory.maxPath) (hfind : find d root = .ok (files, log)) :
    files.Nodup := by
  have hways : (fileWays d base).Nodup := (nodup_waysFrom h).filter _
  rw [files_eq_map h hbase hsize hfind]
  refine ((List.mergeSort_perm _ _).nodup_iff.mpr hways).map_on ?_
  intro names hnames names' hnames' heq
  rw [List.mem_mergeSort] at hnames hnames'
  exact fileWays_unique h hbase hnames hnames' (congrArg located heq)

/-- The paths of the test files that are found ascend from each one to the next. -/
theorem pairwise_lt_of_find (h : d.root.Plain) (hbase : rootPath? root = some base)
    (hsize : base.utf8ByteSize ≤ Directory.maxPath) (hfind : find d root = .ok (files, log)) :
    files.Pairwise fun p q => Path.compare p q = .lt := by
  have hsorted := pairwise_found d root
  rw [found_of_ok hfind] at hsorted
  refine (hsorted.and (nodup_of_find h hbase hsize hfind)).imp_of_mem ?_
  rintro p q hp hq ⟨hle, hpq⟩
  -- Paths that compare as equal have the same components, so that they are the same path here.
  have hdiffer : Path.compare p q ≠ .eq := by
    intro heq
    rw [files_eq_map h hbase hsize hfind, List.mem_map] at hp hq
    obtain ⟨names, hnames, rfl⟩ := hp
    obtain ⟨names', hnames', rfl⟩ := hq
    rw [List.mem_mergeSort] at hnames hnames'
    have hsame : names = names' := fileWays_unique h hbase hnames hnames'
      (congrArg (List.filter _) (Path.components_of_compare_eq heq))
    exact hpq (by rw [hsame])
  rw [Path.le] at hle
  cases hcompare : Path.compare p q with
  | lt => rfl
  | eq => exact absurd hcompare hdiffer
  | gt => rw [hcompare] at hle; exact absurd hle (by decide)

/-- What is found below a root in a tree without symbolic links: for each way to a test file below
the directory that the root leads to, its path, in strictly ascending order, if the path is not
longer than a path may be. A filter leaves out the paths in whose text it does not occur. The search
fails exactly if a directory that it lists has a path that is too long or may not be listed. Nothing
is found below a root that begins with points and a repeated separator. -/
theorem find_files_below (d : Disk) (root : String) (hplain : d.root.Plain) (hne : root ≠ "")
    (hsize : root.utf8ByteSize ≤ Directory.maxPath) :
    (Stray root → ∃ log, find d root = .ok ([], log)) ∧
      (¬Stray root → ∃ base, rootPath? root = some base ∧ base.toList.Sublist root.toList ∧
        located base = located root ∧
        ((∃ b, find d root = .error b) ↔ ∃ path dir, Lists d root path dir ∧
          (Directory.maxPath < path.utf8ByteSize ∨ dir.mayList = false)) ∧
        ∀ files log, find d root = .ok (files, log) →
          (∀ p, p ∈ files ↔ ∃ here around names,
            d.resolve root = .ok (.folder here around) ∧ here.HasFile names ∧
              EndsAsTestFile names ∧ p = names.foldl child base ∧
              p.utf8ByteSize ≤ Directory.maxPath ∧
              located p = located root ++ names.map .name) ∧
          (files.Pairwise fun p q => Path.compare p q = .lt) ∧
          ∀ filter, (filterPaths filter files).Sublist files ∧
            ∀ p, p ∈ filterPaths filter files ↔ p ∈ files ∧ Survives filter p) := by
  rw [← rootPath?_eq_none_iff, ← ne_eq, Option.ne_none_iff_exists']
  refine ⟨fun hstray => find_of_stray (rootPath?_eq_none_iff.mp hstray), ?_⟩
  rintro ⟨base, hbase⟩
  have hbase_size := size_le_of_rootPath? hne hsize hbase
  have hbase_ne := (entered_of_rootPath? hbase).1
  have hlocated := located_of_rootPath? hbase
  refine ⟨base, hbase, sublist_of_rootPath? hne hbase, hlocated, ?_, fun files log hfind =>
    ⟨fun p => ?_, pairwise_lt_of_find hplain hbase hbase_size hfind, fun filter =>
      ⟨filterPaths_sublist filter _, fun p => mem_filterPaths⟩⟩⟩
  · rw [(find_eq_error_iff hplain hbase hbase_size).1]
    simp only [fault?_ne_none_iff]
  · rw [mem_files_iff hplain hne hsize hbase hfind]
    constructor
    · rintro ⟨here, around, names, hfolder, ⟨f, hentry⟩, hend, rfl, hlong⟩
      refine ⟨here, around, names, hfolder, ⟨f, hentry⟩, hend, rfl, hlong, ?_⟩
      have hhere : here.Plain :=
        Disk.plain_of_folder? hplain (Disk.folder?_eq_some_iff.mpr ⟨around, hfolder⟩)
      rw [located_foldl_child hbase_ne fun n hn => hhere.properName_of_hasEntry hentry hn, hlocated]
    · rintro ⟨here, around, names, hfolder, hfile, hend, rfl, hlong, -⟩
      exact ⟨here, around, names, hfolder, hfile, hend, rfl, hlong⟩

/-- A tree with names that would mean more in a pattern and a directory that is called like a test
file. -/
def sampleDisk : Disk where
  root := .folder "t[*]" (.folder ".d.yaml" (.file "n.yaml" {} .empty)
    (.file "a?.yaml" {} .empty)) .empty
  current := "/"

/-- The test file in the directory that is called like one is found. -/
theorem find_files_below_sample :
    sampleDisk.root.Plain ∧ ¬Stray "./t[*]//../t[*]/" ∧
      ∃ files log, find sampleDisk "./t[*]//../t[*]/" = .ok (files, log) ∧
        "t[*]/../t[*]/.d.yaml/n.yaml" ∈ files := by
  have hplain : sampleDisk.root.Plain := by decide
  have hpath : rootPath? "./t[*]//../t[*]/" = some "t[*]/../t[*]" := by rfl
  have hstray : ¬Stray "./t[*]//../t[*]/" := by
    rw [← rootPath?_eq_none_iff, hpath]
    exact Option.some_ne_none _
  obtain ⟨base, hbase, -, -, -, hfiles⟩ :=
    (find_files_below sampleDisk "./t[*]//../t[*]/" hplain (by decide) (by decide)).2 hstray
  obtain rfl : "t[*]/../t[*]" = base := Option.some.inj (hpath.symm.trans hbase)
  have hopen : blocked (search sampleDisk "./t[*]//../t[*]/") = [] := by rfl
  obtain ⟨log, hfind⟩ := find_of_not_blocked hopen rfl
  refine ⟨hplain, hstray, _, log, hfind, ((hfiles _ log hfind).1 _).mpr ?_⟩
  exact ⟨_, _, [".d.yaml", "n.yaml"], rfl, ⟨{}, _, rfl, rfl⟩, ⟨"n.yaml", rfl, by decide⟩, rfl,
    by decide, rfl⟩

/-- A tree with a test file in a directory. -/
def smallDisk : Disk where
  root := .folder "t" (.file "a.yaml" {} .empty) .empty
  current := "/"

/-- The test file is below the directory, and nothing is found below the path of the directory with
a repeated separator after a point. -/
theorem find_misses_file_below_stray_root :
    smallDisk.root.Plain ∧
      (∃ here around, smallDisk.resolve ".//t" = .ok (.folder here around) ∧
        here.HasFile ["a.yaml"]) ∧
      EndsAsTestFile ["a.yaml"] ∧ ∃ log, find smallDisk ".//t" = .ok ([], log) := by
  have hstray : Stray ".//t" := ⟨0, ['t'], rfl⟩
  exact ⟨by decide, ⟨.file "a.yaml" {} .empty, [smallDisk.root], rfl, {}, rfl⟩,
    ⟨"a.yaml", rfl, by decide⟩, find_of_stray hstray⟩

end BlackBox.Discovery
