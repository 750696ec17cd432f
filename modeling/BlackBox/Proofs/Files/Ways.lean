import Mathlib.Data.List.Sort
import BlackBox.Proofs.Files.RootPath
import BlackBox.Proofs.Files.Tree

/-!
# Ways to test files

An entry below a directory is known by the names on the way to it, whatever the directory is called.
`ways` lists those to the entries that are called like test files, each of them once (`mem_ways`,
`nodup_ways`). The path at the end of a way leads where the names lead from the directory
(`resolve_foldl_child`), so that it is the path of a file exactly if there is a file at the end of
the way and the path is not too long (`file?_foldl_child`). The order of two such paths is that of
the ways (`le_foldl_child`).
-/

namespace BlackBox.Discovery

open Directory (ProperName HasEntry HasFile Plain)
open BlackBox.Path (Component components isAbsolute parts steps)

variable {base name : String} {here entries : Directory} {around : List Directory}
  {names names' : List String}

/-! ## Ways -/

/-- Whether the last of some names is that of a test file. -/
def EndsAsTestFile (names : List String) : Prop :=
  ∃ name, names.getLast? = some name ∧ extension.toList <:+ name.toList

/-- The name of an entry decides, not those of the directories around it. -/
theorem endsAsTestFile_cons (h : names ≠ []) :
    EndsAsTestFile (name :: names) ↔ EndsAsTestFile names := by
  rw [EndsAsTestFile, EndsAsTestFile, List.getLast?_cons_of_ne_nil h]

/-- An entry is called like a test file by its own name. -/
theorem endsAsTestFile_singleton : EndsAsTestFile [name] ↔ isTestFile name = true := by
  simp [EndsAsTestFile, isTestFile]

/-- The way to an entry, if it is called like a test file. -/
def own (name : String) : List (List String) := if isTestFile name then [[name]] else []

/-- The ways to those among some entries and below them that are called like test files, in the
order of a search. -/
def ways : Directory → List (List String)
  | .empty _ => []
  | .file name _ rest => own name ++ ways rest
  | .link _ _ rest => ways rest
  | .folder name inside rest => own name ++ ((ways inside).map (name :: ·) ++ ways rest)

/-- The own way of an entry is its name. -/
theorem mem_own : names ∈ own name ↔ names = [name] ∧ EndsAsTestFile names := by
  rw [own]
  split_ifs with hname
  · rw [List.mem_singleton]
    refine ⟨fun h => ⟨h, ?_⟩, And.left⟩
    rw [h]
    exact endsAsTestFile_singleton.mpr hname
  · refine iff_of_false List.not_mem_nil ?_
    rintro ⟨rfl, hend⟩
    exact hname (endsAsTestFile_singleton.mp hend)

/-- The ways in a plain tree are those that lead to an entry with the name of a test file. -/
theorem mem_ways (h : entries.Plain) :
    names ∈ ways entries ↔ (∃ e, entries.HasEntry names e) ∧ EndsAsTestFile names := by
  induction entries generalizing names with
  | empty =>
    refine iff_of_false List.not_mem_nil ?_
    rintro ⟨⟨e, hentry⟩, -⟩
    exact Directory.not_hasEntry_empty hentry
  | file name f rest ih =>
    simp only [Directory.hasEntry_file h.2.1, exists_or, or_and_right]
    rw [← ih h.2.2, ways, List.mem_append, mem_own]
    simp
  | link name target rest => exact h.elim
  | folder name inside rest ihInside ihRest =>
    simp only [Directory.hasEntry_folder h.2.1, exists_or, or_and_right]
    rw [← ihRest h.2.2.2, ways, List.mem_append, List.mem_append, mem_own, List.mem_map]
    refine or_congr (by simp) (or_congr_left ?_)
    -- A way into the folder has its name in front, which does not change how the way ends.
    constructor
    · rintro ⟨below, hbelow, rfl⟩
      obtain ⟨⟨e, hentry⟩, hend⟩ := (ihInside h.2.2.1).mp hbelow
      exact ⟨⟨e, below, rfl, hentry⟩, (endsAsTestFile_cons hentry.ne_nil).mpr hend⟩
    · rintro ⟨⟨e, below, rfl, hentry⟩, hend⟩
      have hbelow := (endsAsTestFile_cons hentry.ne_nil).mp hend
      exact ⟨below, (ihInside h.2.2.1).mpr ⟨⟨e, hentry⟩, hbelow⟩, rfl⟩

/-- There are names on a way. -/
theorem ne_nil_of_mem_ways (h : entries.Plain) (hnames : names ∈ ways entries) : names ≠ [] := by
  obtain ⟨⟨e, hentry⟩, -⟩ := (mem_ways h).mp hnames
  exact hentry.ne_nil

/-- The names on a way are proper. -/
theorem properName_of_mem_ways (h : entries.Plain) (hnames : names ∈ ways entries) :
    ∀ n ∈ names, ProperName n := by
  obtain ⟨⟨e, hentry⟩, -⟩ := (mem_ways h).mp hnames
  exact fun _ hn => h.properName_of_hasEntry hentry hn

/-- A way further on does not begin with the name of an entry. -/
theorem cons_not_mem_ways (h : entries.Plain) (hname : entries.find? name = none) :
    name :: names ∉ ways entries := by
  intro hmem
  obtain ⟨⟨e, hentry⟩, -⟩ := (mem_ways h).mp hmem
  exact hentry.find?_ne_none hname

/-- No way is listed twice. -/
theorem nodup_ways (h : entries.Plain) : (ways entries).Nodup := by
  have hown : ∀ name : String, (own name).Nodup := by
    intro name
    rw [own]
    split_ifs
    · exact List.nodup_singleton _
    · exact List.nodup_nil
  induction entries with
  | empty => exact List.nodup_nil
  | file name f rest ih =>
    refine List.nodup_append.mpr ⟨hown name, ih h.2.2, ?_⟩
    rintro _ hmem _ hmem' rfl
    obtain ⟨rfl, -⟩ := mem_own.mp hmem
    exact cons_not_mem_ways h.2.2 h.2.1 hmem'
  | link name target rest => exact h.elim
  | folder name inside rest ihInside ihRest =>
    have hinside : ((ways inside).map (name :: ·)).Nodup :=
      (ihInside h.2.2.1).map (List.cons_injective)
    refine List.nodup_append.mpr ⟨hown name,
      List.nodup_append.mpr ⟨hinside, ihRest h.2.2.2, ?_⟩, ?_⟩
    · rintro _ hmem _ hmem' rfl
      obtain ⟨below, -, rfl⟩ := List.mem_map.mp hmem
      exact cons_not_mem_ways h.2.2.2 h.2.1 hmem'
    · -- A way into the folder is longer than its own one.
      rintro _ hmem _ hmem' rfl
      obtain ⟨rfl, -⟩ := mem_own.mp hmem
      rcases List.mem_append.mp hmem' with hin | hrest
      · obtain ⟨below, hbelow, heq⟩ := List.mem_map.mp hin
        exact ne_nil_of_mem_ways h.2.2.1 hbelow (List.cons.inj heq).2
      · exact cons_not_mem_ways h.2.2.2 h.2.1 hrest

/-! ## The order of paths with a common base -/

/-- The part with the name of an entry is a component. -/
theorem ofPart?_of_properName (hname : ProperName name) :
    Component.ofPart? name.toList = some (.name name) := by
  have hkept : ¬(name.toList = [] ∨ name.toList = ['.']) := by
    rintro (hnil | h)
    · exact hname.ne_empty (String.toList_eq_nil_iff.mp hnil)
    · exact hname.ne_point (String.toList_inj.mp h)
  have hother : name.toList ≠ ['.', '.'] := fun h => hname.ne_parent (String.toList_inj.mp h)
  rw [Component.ofPart?, if_neg hkept, if_neg hother, String.ofList_toList]

/-- The components of the path of an entry are those of the directory, if that is not the current
one, and the name. -/
theorem components_child (hbase : base ≠ "") (hname : ProperName name) :
    components (child base name) =
      (if base = "." then [] else components base) ++ [.name name] := by
  have hpart : [name.toList].filterMap Component.ofPart? = [.name name] := by
    rw [List.filterMap_cons_some (ofPart?_of_properName hname), List.filterMap_nil]
  rw [child]
  split_ifs with hpoint
  · have hhead : [name.toList].head? ≠ some ['.'] :=
      fun h => hname.ne_point (String.toList_inj.mp (Option.some.inj h))
    have habs : isAbsolute name = false := Path.isAbsolute_of_not_mem hname.no_separator
    simp only [components, Path.parts_of_not_mem hname.no_separator, habs, hhead, hpart, if_false,
      Bool.false_eq_true, List.nil_append]
  · -- An empty part at the end of the directory is no component, and there is a part before it.
    obtain ⟨ps, hne, hjoin, hparts⟩ := Path.parts_join hbase hname.no_separator
    have habs : isAbsolute (Path.join base name) = isAbsolute base :=
      Path.isAbsolute_join hbase (Path.isAbsolute_of_not_mem hname.no_separator)
    have hinner : (parts base.toList).filterMap Component.ofPart? =
        ps.filterMap Component.ofPart? := by
      rcases hparts with hparts | hparts
      · rw [hparts]
      · rw [hparts, List.filterMap_append]
        exact List.append_nil _
    have hhead : (parts base.toList).head? = ps.head? := by
      rcases hparts with hparts | hparts
      · rw [hparts]
      · rw [hparts, List.head?_append_of_ne_nil _ hne]
    simp only [components, habs, hjoin, hinner, hhead, List.filterMap_append, hpart,
      List.head?_append_of_ne_nil _ hne]
    split_ifs
    · rfl
    · rfl
    · rfl

/-- The path of an entry with a proper name is not empty. -/
theorem child_ne_empty (hbase : base ≠ "") (hname : ProperName name) : child base name ≠ "" :=
  fun h => hname.ne_empty ((child_eq_empty_iff hbase hname.no_separator).mp h).2

/-- The path of an entry with a proper name is not that of the current directory. -/
theorem child_ne_point (hbase : base ≠ "") (hname : ProperName name) : child base name ≠ "." :=
  fun h => hname.ne_point ((child_eq_point_iff hbase hname.no_separator).mp h).2

/-- The components of the path at the end of a way are those of the directory, if that is not the
current one, and the names. -/
theorem components_foldl_child (hbase : base ≠ "") (hnames : ∀ n ∈ names, ProperName n)
    (hne : names ≠ []) : components (names.foldl child base) =
      (if base = "." then [] else components base) ++ names.map .name := by
  induction names generalizing base with
  | nil => exact absurd rfl hne
  | cons name names ih =>
    rw [List.forall_mem_cons] at hnames
    cases names with
    | nil => exact components_child hbase hnames.1
    | cons next names =>
      -- After the first name the path is no point, so that its components are kept.
      rw [List.foldl_cons, ih (child_ne_empty hbase hnames.1) hnames.2 (List.cons_ne_nil _ _),
        if_neg (child_ne_point hbase hnames.1), components_child hbase hnames.1,
        List.append_assoc]
      rfl

/-- The path at the end of a way is not empty. -/
theorem foldl_child_ne_empty (hbase : base ≠ "") (hnames : ∀ n ∈ names, ProperName n) :
    names.foldl child base ≠ "" := by
  induction names generalizing base with
  | nil => exact hbase
  | cons name names ih =>
    rw [List.forall_mem_cons] at hnames
    exact ih (child_ne_empty hbase hnames.1) hnames.2

/-- The last part of the path of an entry is its name. -/
theorem getLast?_pathParts_child (hbase : base ≠ "") (hname : ProperName name) :
    (Directory.pathParts (child base name)).getLast? = some name := by
  obtain ⟨ps, hparts⟩ : ∃ ps, parts (child base name).toList = ps ++ [name.toList] := by
    rw [child]
    split_ifs
    · exact ⟨[], Path.parts_of_not_mem hname.no_separator⟩
    · obtain ⟨ps, -, hparts, -⟩ := Path.parts_join hbase hname.no_separator
      exact ⟨ps, hparts⟩
  rw [Directory.pathParts, hparts, List.map_append, List.map_singleton, List.getLast?_concat,
    String.ofList_toList]

/-- The last part of the path at the end of a way leads to another place. -/
theorem leads_of_getLast?_foldl_child (hbase : base ≠ "") (hnames : ∀ n ∈ names, ProperName n)
    (hne : names ≠ []) :
    ∀ last ∈ (Directory.pathParts (names.foldl child base)).getLast?,
      Path.leads last.toList = true := by
  obtain ⟨front, name, rfl⟩ := names.eq_nil_or_concat'.resolve_left hne
  have hname : ProperName name := hnames name (List.mem_append_right _ List.mem_cons_self)
  have hfront : front.foldl child base ≠ "" :=
    foldl_child_ne_empty hbase fun n hn => hnames n (List.mem_append_left _ hn)
  intro last hlast
  rw [List.foldl_append, List.foldl_cons, List.foldl_nil, getLast?_pathParts_child hfront hname,
    Option.mem_some_iff] at hlast
  rw [← hlast]
  exact hname.leads

/-- The order of ways: name by name. -/
def wayLe (names names' : List String) : Bool :=
  (List.compareLex Component.compare (names.map .name) (names'.map .name)).isLE

/-- What two lists begin with in common does not matter to their order. -/
theorem compareLex_append_left (cs as bs : List Component) :
    List.compareLex Component.compare (cs ++ as) (cs ++ bs) =
      List.compareLex Component.compare as bs := by
  induction cs with
  | nil => rfl
  | cons c cs ih =>
    have hself : Component.compare c c = .eq := Std.ReflCmp.compare_self
    rw [List.cons_append, List.cons_append, List.compareLex_cons_cons, hself, ih]
    rfl

/-- The paths at the ends of ways from one directory are in the order of the ways. -/
theorem le_foldl_child (hbase : base ≠ "") (hnames : ∀ n ∈ names, ProperName n) (hne : names ≠ [])
    (hnames' : ∀ n ∈ names', ProperName n) (hne' : names' ≠ []) :
    Path.le (names.foldl child base) (names'.foldl child base) = wayLe names names' := by
  rw [Path.le, Path.compare, components_foldl_child hbase hnames hne,
    components_foldl_child hbase hnames' hne', compareLex_append_left, wayLe]

/-! ## Where ways lead -/

/-- The steps to the end of a way are those to the directory and then the names. -/
theorem steps_foldl_child (hbase : base ≠ "") (hnames : ∀ n ∈ names, ProperName n) :
    steps (names.foldl child base).toList = steps base.toList ++ names.map String.toList := by
  induction names generalizing base with
  | nil => exact (List.append_nil _).symm
  | cons name names ih =>
    rw [List.forall_mem_cons] at hnames
    have hstep : steps name.toList = [name.toList] := by
      rw [Path.steps_of_not_mem hnames.1.no_separator, List.filter_cons_of_pos hnames.1.leads]
      rfl
    rw [List.foldl_cons, ih (child_ne_empty hbase hnames.1) hnames.2,
      steps_child hbase hnames.1.no_separator, hstep, List.append_assoc]
    rfl

variable {d : Disk}

/-- The way along the path of an entry is that to the directory and then its name. -/
theorem way_child (hbase : base ≠ "") (hname : '/' ∉ name.toList)
    (hleads : Path.leads name.toList = true) : d.way (child base name) = d.way base ++ [name] := by
  have hstep : steps name.toList = [name.toList] := by
    rw [Path.steps_of_not_mem hname, List.filter_cons_of_pos hleads]
    rfl
  rw [Disk.way, Disk.way, isAbsolute_child hbase hname, steps_child hbase hname, hstep,
    ← List.append_assoc, List.map_append, List.map_singleton, String.ofList_toList]

/-- The way along the path at the end of some names is that to the directory and then the names. -/
theorem way_foldl_child (hbase : base ≠ "") (hnames : ∀ n ∈ names, ProperName n) :
    d.way (names.foldl child base) = d.way base ++ names := by
  induction names generalizing base with
  | nil => exact (List.append_nil _).symm
  | cons name names ih =>
    rw [List.forall_mem_cons] at hnames
    rw [List.foldl_cons, ih (child_ne_empty hbase hnames.1) hnames.2,
      way_child hbase hnames.1.no_separator hnames.1.leads, List.append_assoc]
    rfl

/-- There is no null character in the path at the end of a way from a directory that is there. -/
theorem nul_not_mem_foldl_child (h : d.root.Plain)
    (hfolder : d.resolve base = .ok (.folder here around)) (hnames : ∀ n ∈ names, ProperName n) :
    '\x00' ∉ (names.foldl child base).toList := by
  obtain ⟨⟨hnul, hbase, -⟩, -⟩ := (Disk.resolve_eq_folder_iff h).mp hfolder
  rw [Path.mem_iff_mem_steps (by decide) (by decide)] at hnul ⊢
  rw [steps_foldl_child hbase hnames]
  rintro ⟨part, hpart, hmem⟩
  rcases List.mem_append.mp hpart with hpart | hpart
  · exact hnul ⟨part, hpart, hmem⟩
  · obtain ⟨n, hn, rfl⟩ := List.mem_map.mp hpart
    exact (hnames n hn).no_nul hmem

/-- In a plain tree the path at the end of a way leads where the names lead from the directory, if
it is not too long. -/
theorem resolve_foldl_child (h : d.root.Plain)
    (hfolder : d.resolve base = .ok (.folder here around)) (hnames : ∀ n ∈ names, ProperName n)
    (hne : names ≠ []) (hsize : (names.foldl child base).utf8ByteSize ≤ Directory.maxPath) :
    d.resolve (names.foldl child base) = here.advance around names := by
  obtain ⟨⟨-, hbase, -⟩, hway⟩ := (Disk.resolve_eq_folder_iff h).mp hfolder
  rw [Disk.resolve_eq_advance h (nul_not_mem_foldl_child h hfolder hnames)
      (foldl_child_ne_empty hbase hnames) hsize (leads_of_getLast?_foldl_child hbase hnames hne),
    way_foldl_child hbase hnames, Directory.advance_append hway]

/-- In a plain tree the path at the end of a way is that of a file exactly if there is a file at the
end of the way and the path is not too long. -/
theorem file?_foldl_child (h : d.root.Plain)
    (hfolder : d.resolve base = .ok (.folder here around)) (hnames : ∀ n ∈ names, ProperName n)
    (hne : names ≠ []) :
    (d.file? (names.foldl child base)).isSome ↔
      here.HasFile names ∧ (names.foldl child base).utf8ByteSize ≤ Directory.maxPath := by
  by_cases hsize : (names.foldl child base).utf8ByteSize ≤ Directory.maxPath
  · have hfile : (d.file? (names.foldl child base)).isSome ↔
        ∃ f, here.advance around names = .ok (.file f) := by
      rw [Disk.file?, resolve_foldl_child h hfolder hnames hne hsize]
      split
      · next f hf => simp [hf]
      · next hno =>
        refine iff_of_false (by simp) ?_
        rintro ⟨f, hf⟩
        exact hno f hf
    rw [hfile, and_iff_left hsize]
    exact exists_congr fun f => Directory.advance_eq_file_iff hnames
  · rw [Disk.file?_of_long (Nat.lt_of_not_le hsize)]
    exact iff_of_false (by simp) fun hfile => hsize hfile.2

end BlackBox.Discovery
