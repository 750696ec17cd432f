import BlackBox.Proofs.Files.Anchor
import BlackBox.Proofs.Files.Search

/-!
# Roots in full

A relative root may also be written in full, from the root of the file system. The two are called by
anchored paths (`exists_twin`). The searches below them list the same directories, by anchored
paths, but for those on the way to the current directory (`Twin.exists_lists`,
`Twin.onTheWay_or_lists`). So both fail, or they find files at the ends of the same ways, in the
same order (`find_anchored`).
-/

namespace BlackBox

/-- The text of a relative path, written from the root of the file system. -/
def Disk.inFull (d : Disk) (path : String) : String := d.current ++ "/" ++ path

namespace Discovery

open BlackBox.Path (isAbsolute steps)
open Directory (ProperName pathParts)

variable {d : Disk} {root base path start full place : String} {parts : List String}
  {dir : Directory}

/-! ## Roots in full -/

/-- Where the path of the current directory is absolute, so is every path in full. -/
theorem isAbsolute_inFull (hcurrent : isAbsolute d.current = true) (root : String) :
    isAbsolute (d.inFull root) = true := by
  rw [isAbsolute, beq_iff_eq, List.head?_eq_some_iff] at hcurrent
  obtain ⟨rest, hrest⟩ := hcurrent
  rw [isAbsolute, Disk.inFull, String.toList_append, String.toList_append, hrest]
  rfl

/-- The parts of a root that is written in full: those of the current directory and then those of
the relative root. -/
theorem rootParts_inFull (hcurrent : isAbsolute d.current = true)
    (hroot : isAbsolute root = false) :
    rootParts (d.inFull root) = (pathParts d.current).tail ++ rootParts root := by
  have hne : pathParts root ≠ [] := Directory.pathParts_ne_nil root
  have htail : (pathParts (d.inFull root)).tail = (pathParts d.current).tail ++ pathParts root := by
    rw [Disk.inFull, Directory.pathParts_append,
      List.tail_append_of_ne_nil (Directory.pathParts_ne_nil _)]
  simp only [rootParts, isAbsolute_inFull hcurrent, hroot, htail, if_true, Bool.false_eq_true,
    if_false, List.getLast?_append_of_ne_nil _ hne]
  split_ifs
  · rw [List.dropLast_append_of_ne_nil hne]
  · rfl

/-- The path of the current directory, entered part by part, is anchored to a point. -/
theorem exists_anchored_point (hcurrent : isAbsolute d.current = true) :
    ∃ full, (pathParts d.current).tail.foldlM next? "/" = some full ∧ d.Anchored "." full := by
  have hparts : pathParts d.current = "" :: (pathParts d.current).tail :=
    pathParts_of_isAbsolute hcurrent
  have hsep : ∀ p ∈ (pathParts d.current).tail, '/' ∉ p.toList :=
    fun p hp => not_mem_of_mem_pathParts (List.mem_of_mem_tail hp)
  obtain ⟨full, hfull⟩ : ∃ full, (pathParts d.current).tail.foldlM next? "/" = some full :=
    Option.ne_none_iff_exists'.mp (foldlM_next_ne_none (by decide) (by decide) hsep)
  have hentered := entered_of_foldlM (by decide) hsep hfull
  have hsteps : steps full.toList = steps d.current.toList := by
    rw [hentered.steps_eq, ← flatMap_steps_pathParts d.current, hparts]
    rfl
  refine ⟨full, hfull, by decide, rfl, hentered.isAbsolute_eq, ?_, .inl rfl⟩
  rw [hsteps]
  exact (List.append_nil _).symm

/-- A relative root is followed from the current directory. -/
theorem start_of_relative (hroot : isAbsolute root = false) : Discovery.start root = "." := by
  rw [Discovery.start, hroot, if_neg (by decide)]

/-- A root in full is followed from the root of the file system. -/
theorem start_inFull (hcurrent : isAbsolute d.current = true) :
    Discovery.start (d.inFull root) = "/" := by
  rw [Discovery.start, isAbsolute_inFull hcurrent, if_pos rfl]

/-- The path by which a relative root is called is entered from the current directory. -/
theorem rootPath?_of_relative (hroot : isAbsolute root = false) :
    rootPath? root = (rootParts root).foldlM next? "." := by
  rw [rootPath?, start_of_relative hroot]

/-- A relative root and the same root in full: where the search for each begins with the parts that
they have in common, and the path by which each is called. -/
structure Twin (d : Disk) (root start base full : String) : Prop where
  /-- The current directory is entered first for the root in full. -/
  start_eq : (pathParts d.current).tail.foldlM next? "/" = some start
  /-- Its path is anchored to a point. -/
  start_anchored : d.Anchored "." start
  /-- The parts of the relative root are entered from the current directory. -/
  base_eq : (rootParts root).foldlM next? "." = some base
  /-- They are entered after the current directory for the root in full. -/
  full_eq : (rootParts root).foldlM next? start = some full
  /-- The paths by which the roots are called are anchored. -/
  base_anchored : d.Anchored base full

/-- If a relative root is called by a path, then so is the root in full, and the one is anchored to
the other. -/
theorem exists_twin (hcurrent : isAbsolute d.current = true) (hroot : isAbsolute root = false)
    (hbase : rootPath? root = some base) :
    ∃ start full, rootPath? (d.inFull root) = some full ∧ Twin d root start base full := by
  obtain ⟨start, hstart, hpoint⟩ := exists_anchored_point hcurrent
  rw [rootPath?_of_relative hroot] at hbase
  obtain ⟨full, hfull, hanchored⟩ :=
    hpoint.foldlM_next (fun p hp => not_mem_of_mem_rootParts hp) hbase
  refine ⟨start, full, ?_, hstart, hpoint, hbase, hfull, hanchored⟩
  -- The root in full is entered through the parts of the current directory and then like the other.
  rw [rootPath?, start_inFull hcurrent, rootParts_inFull hcurrent hroot, List.foldlM_append, hstart]
  exact hfull

/-! ## The directories that are listed -/

/-- Where some parts are followed from anchored paths, the first ones lead to anchored paths too. -/
theorem exists_anchored_of_append {front back : List String} {base' : String}
    (h : d.Anchored path full) (hparts : ∀ p ∈ front ++ back, '/' ∉ p.toList)
    (hbase : (front ++ back).foldlM next? path = some base)
    (hbase' : (front ++ back).foldlM next? full = some base') :
    ∃ place place', front.foldlM next? path = some place ∧ front.foldlM next? full = some place' ∧
      d.Anchored place place' ∧ place'.utf8ByteSize ≤ base'.utf8ByteSize := by
  rw [List.foldlM_append, Option.bind_eq_bind, Option.bind_eq_some_iff] at hbase hbase'
  obtain ⟨place, hplace, -⟩ := hbase
  obtain ⟨place', hplace', hend⟩ := hbase'
  -- The path that goes with the first one is the one that the parts lead to.
  obtain ⟨place'', hplace'', hanchored⟩ :=
    h.foldlM_next (fun p hp => hparts p (List.mem_append_left _ hp)) hplace
  obtain rfl : place' = place'' := Option.some.inj (hplace'.symm.trans hplace'')
  have hback : ∀ p ∈ back, '/' ∉ p.toList := fun p hp => hparts p (List.mem_append_right _ hp)
  exact ⟨place, place', hplace, hplace', hanchored,
    size_le_of_foldlM hanchored.full_ne_empty hback hend⟩

/-- A directory on the way along a relative root is on the way along the same root in full. -/
theorem Twin.exists_onTheWay (h : Twin d root start base full) (hplain : d.root.Plain)
    (hnul : '\x00' ∉ d.current.toList) (hsize : full.utf8ByteSize ≤ Directory.maxPath)
    (hon : OnTheWay d "." (rootParts root) place dir) :
    ∃ place', OnTheWay d start (rootParts root) place' dir ∧ d.Anchored place place' := by
  obtain ⟨front, part, rest, hparts, hpart, hplace, hdir⟩ := hon
  obtain ⟨at', place', hat, hplace', hanchored, hle⟩ := exists_anchored_of_append h.start_anchored
    (fun p hp => not_mem_of_mem_rootParts (hparts ▸ hp)) (hparts ▸ h.base_eq) (hparts ▸ h.full_eq)
  obtain rfl : place = at' := Option.some.inj (hplace.symm.trans hat)
  rw [hanchored.folder?_eq hplain hnul (hle.trans hsize)] at hdir
  exact ⟨place', ⟨front, part, rest, hparts, hpart, hplace', hdir⟩, hanchored⟩

/-- A directory on the way along a root in full, past the current directory, is on the way along the
same root when it is relative. -/
theorem Twin.exists_onTheWay_relative (h : Twin d root start base full) (hplain : d.root.Plain)
    (hnul : '\x00' ∉ d.current.toList) (hsize : full.utf8ByteSize ≤ Directory.maxPath)
    (hon : OnTheWay d start (rootParts root) place dir) :
    ∃ place', OnTheWay d "." (rootParts root) place' dir := by
  obtain ⟨front, part, rest, hparts, hpart, hplace, hdir⟩ := hon
  obtain ⟨place', at', hplace', hat, hanchored, hle⟩ := exists_anchored_of_append h.start_anchored
    (fun p hp => not_mem_of_mem_rootParts (hparts ▸ hp)) (hparts ▸ h.base_eq) (hparts ▸ h.full_eq)
  obtain rfl : place = at' := Option.some.inj (hplace.symm.trans hat)
  rw [← hanchored.folder?_eq hplain hnul (hle.trans hsize)] at hdir
  exact ⟨place', front, part, rest, hparts, hpart, hplace', hdir⟩

/-- On the way along a root in full are what is on the way to the current directory, and what is on
the way along the relative root from there. -/
theorem Twin.onTheWay_inFull_iff (h : Twin d root start base full)
    (hcurrent : isAbsolute d.current = true) (hroot : isAbsolute root = false) :
    OnTheWay d (Discovery.start (d.inFull root)) (rootParts (d.inFull root)) place dir ↔
      OnTheWay d "/" (pathParts d.current).tail place dir ∨
        OnTheWay d start (rootParts root) place dir := by
  rw [start_inFull hcurrent, rootParts_inFull hcurrent hroot, onTheWay_append h.start_eq]

/-- What a search lists below a relative root is listed below the same root in full, by a path that
is anchored to the other. -/
theorem Twin.exists_lists (h : Twin d root start base full) (hplain : d.root.Plain)
    (hsettled : d.Settled) (hroot : isAbsolute root = false)
    (hfull : rootPath? (d.inFull root) = some full) (hsize : full.utf8ByteSize ≤ Directory.maxPath)
    (hlists : Lists d root place dir) :
    ∃ place', Lists d (d.inFull root) place' dir ∧ d.Anchored place place' := by
  have hnul := hsettled.nul_not_mem hplain
  cases hlists with
  | onTheWay hon =>
    rw [start_of_relative hroot] at hon
    obtain ⟨place', hon', hanchored⟩ := h.exists_onTheWay hplain hnul hsize hon
    refine ⟨place', .onTheWay ?_, hanchored⟩
    exact (h.onTheWay_inFull_iff hsettled.absolute hroot).mpr (.inr hon')
  | below hbase hhere hdir =>
    rw [rootPath?_of_relative hroot, h.base_eq, Option.some.injEq] at hbase
    subst hbase
    have hproper : ∀ n ∈ _, ProperName n := fun n hn =>
      (Disk.plain_of_folder? hplain hhere).properName_of_hasFolder hdir hn
    rw [h.base_anchored.folder?_eq hplain hnul hsize] at hhere
    exact ⟨_, .below hfull hhere hdir, h.base_anchored.foldl_child hproper⟩

/-- What a search lists below a root in full is on the way to the current directory, or it is listed
below the same root when it is relative. -/
theorem Twin.onTheWay_or_lists (h : Twin d root start base full) (hplain : d.root.Plain)
    (hsettled : d.Settled) (hroot : isAbsolute root = false)
    (hfull : rootPath? (d.inFull root) = some full) (hsize : full.utf8ByteSize ≤ Directory.maxPath)
    (hlists : Lists d (d.inFull root) place dir) :
    OnTheWay d "/" (pathParts d.current).tail place dir ∨ ∃ place', Lists d root place' dir := by
  have hnul := hsettled.nul_not_mem hplain
  cases hlists with
  | onTheWay hon =>
    refine ((h.onTheWay_inFull_iff hsettled.absolute hroot).mp hon).imp_right fun hon => ?_
    obtain ⟨place', hon'⟩ := h.exists_onTheWay_relative hplain hnul hsize hon
    refine ⟨place', .onTheWay ?_⟩
    rwa [start_of_relative hroot]
  | below hfull' hhere hdir =>
    rw [hfull, Option.some.injEq] at hfull'
    subst hfull'
    rw [← h.base_anchored.folder?_eq hplain hnul hsize] at hhere
    have hbase : rootPath? root = some base := (rootPath?_of_relative hroot).trans h.base_eq
    exact .inr ⟨_, .below hbase hhere hdir⟩

/-- The paths of a search are no longer than a path may be. -/
structure Fits (d : Disk) (root : String) : Prop where
  /-- The path by which the root is called. -/
  base_le : ∀ base, rootPath? root = some base → base.utf8ByteSize ≤ Directory.maxPath
  /-- The paths of the directories that are listed. -/
  listed_le : ∀ place dir, Lists d root place dir → place.utf8ByteSize ≤ Directory.maxPath
  /-- The paths of the test files. -/
  found_le : ∀ base here names, rootPath? root = some base → d.folder? base = some here →
    here.HasFile names → EndsAsTestFile names →
      (names.foldl child base).utf8ByteSize ≤ Directory.maxPath

/-- A search may list the directories that it has to list on the way to the current directory: each
comes before a part of its path that does not stand for itself. -/
def Approachable (d : Disk) : Prop :=
  ∀ place dir, OnTheWay d "/" (pathParts d.current).tail place dir → dir.mayList = true

/-! ## What is found -/

/-- In a plain tree the ways to files are the same from anchored paths, if the paths at their ends
are not too long. -/
theorem fileWays_anchored (h : d.Anchored base full) (hplain : d.root.Plain)
    (hnul : '\x00' ∉ d.current.toList) (hsize : full.utf8ByteSize ≤ Directory.maxPath)
    (hends : ∀ here names, d.folder? full = some here → here.HasFile names → EndsAsTestFile names →
      (names.foldl child full).utf8ByteSize ≤ Directory.maxPath) :
    fileWays d base = fileWays d full := by
  have hfolder := h.folder?_eq hplain hnul hsize
  have hways : waysFrom d base = waysFrom d full := by rw [waysFrom, waysFrom, hfolder]
  rw [fileWays, fileWays, hways]
  refine List.filter_congr fun names hnames => ?_
  obtain ⟨here, hfull, hmem⟩ := mem_waysFrom.mp hnames
  have hhere := Disk.plain_of_folder? hplain hfull
  have hproper := properName_of_mem_ways hhere hmem
  obtain ⟨around, hresolve⟩ := Disk.folder?_eq_some_iff.mp hfull
  obtain ⟨around', hresolve'⟩ := Disk.folder?_eq_some_iff.mp (hfolder.trans hfull)
  rw [Bool.eq_iff_iff, file?_foldl_child hplain hresolve hproper (ne_nil_of_mem_ways hhere hmem),
    file?_foldl_child hplain hresolve' hproper (ne_nil_of_mem_ways hhere hmem)]
  -- The relative path is no longer than the other, which is not too long.
  refine and_congr_right fun hfile => iff_of_true ?_ ?_
  · exact (h.foldl_child hproper).size_le.trans
      (hends here names hfull hfile ((mem_ways hhere).mp hmem).2)
  · exact hends here names hfull hfile ((mem_ways hhere).mp hmem).2

/-- The search below a relative root fails exactly if that below the same root in full does. -/
theorem Twin.error_iff (h : Twin d root start base full) (hplain : d.root.Plain)
    (hsettled : d.Settled) (hroot : isAbsolute root = false)
    (hfull : rootPath? (d.inFull root) = some full) (hfits : Fits d (d.inFull root))
    (happroach : Approachable d) :
    (∃ b, find d root = .error b) ↔ ∃ b, find d (d.inFull root) = .error b := by
  have hsize := hfits.base_le full hfull
  have hbase : rootPath? root = some base := (rootPath?_of_relative hroot).trans h.base_eq
  rw [(find_eq_error_iff hplain hbase (h.base_anchored.size_le.trans hsize)).1,
    (find_eq_error_iff hplain hfull hsize).1]
  simp only [fault?_ne_none_iff]
  -- No path is too long, so what cannot be listed is a directory that may not be, by either path.
  constructor
  · rintro ⟨place, dir, hlists, hfault⟩
    obtain ⟨place', hlists', hanchored⟩ := h.exists_lists hplain hsettled hroot hfull hsize hlists
    have hshort := hanchored.size_le.trans (hfits.listed_le place' dir hlists')
    exact ⟨place', dir, hlists', .inr (hfault.resolve_left (Nat.not_lt.mpr hshort))⟩
  · rintro ⟨place, dir, hlists, hfault⟩
    have hdenied := hfault.resolve_left (Nat.not_lt.mpr (hfits.listed_le place dir hlists))
    rcases h.onTheWay_or_lists hplain hsettled hroot hfull hsize hlists with hon | ⟨place', hlists'⟩
    · exact absurd (happroach place dir hon) (by rw [hdenied]; exact Bool.false_ne_true)
    · exact ⟨place', dir, hlists', .inr hdenied⟩

/-- The searches below a relative root and below the same root in full both fail, or they find files
at the ends of the same ways, in the same order. -/
theorem find_anchored (hplain : d.root.Plain) (hsettled : d.Settled)
    (hroot : isAbsolute root = false) (hstray : ¬Stray root) (hfits : Fits d (d.inFull root))
    (happroach : Approachable d) :
    (∃ b b', find d root = .error b ∧ find d (d.inFull root) = .error b') ∨
      ∃ (base full : String) (ws : List (List String)) (log log' : List Log.Record),
        d.Anchored base full ∧ Path.located base = Path.located root ∧
        (∀ names ∈ ws, names ≠ [] ∧ (∀ n ∈ names, ProperName n) ∧
          (names.foldl child full).utf8ByteSize ≤ Directory.maxPath) ∧
        find d root = .ok (ws.map fun names => names.foldl child base, log) ∧
        find d (d.inFull root) = .ok (ws.map fun names => names.foldl child full, log') := by
  rw [← rootPath?_eq_none_iff, ← ne_eq, Option.ne_none_iff_exists'] at hstray
  obtain ⟨base, hbase⟩ := hstray
  obtain ⟨start, full, hfull, htwin⟩ := exists_twin hsettled.absolute hroot hbase
  have hfails := htwin.error_iff hplain hsettled hroot hfull hfits happroach
  have hsize := hfits.base_le full hfull
  have hanchored := htwin.base_anchored
  cases hfind : find d root with
  | error b =>
    obtain ⟨b', hb'⟩ := hfails.mp ⟨b, hfind⟩
    exact .inl ⟨b, b', rfl, hb'⟩
  | ok r =>
    cases hfind' : find d (d.inFull root) with
    | error b' =>
      obtain ⟨b, hb⟩ := hfails.mpr ⟨b', hfind'⟩
      rw [hfind] at hb
      cases hb
    | ok r' =>
      obtain ⟨files, log⟩ := r
      obtain ⟨files', log'⟩ := r'
      have hways : fileWays d base = fileWays d full :=
        fileWays_anchored hanchored hplain (hsettled.nul_not_mem hplain) hsize
          fun here names => hfits.found_le full here names hfull
      refine .inr ⟨base, full, (fileWays d full).mergeSort wayLe, log, log', hanchored,
        located_of_rootPath? hbase, fun names hnames => ?_, ?_, ?_⟩
      · have hmem : names ∈ fileWays d full := List.mem_mergeSort.mp hnames
        obtain ⟨hne, hproper⟩ := properName_of_mem_fileWays hplain hmem
        obtain ⟨-, -, -, -, hlong⟩ := (mem_fileWays hplain).mp hmem
        exact ⟨hne, hproper, hlong⟩
      · rw [files_eq_map hplain hbase (hanchored.size_le.trans hsize) hfind, hways]
      · rw [files_eq_map hplain hfull hsize hfind']

end Discovery

end BlackBox
