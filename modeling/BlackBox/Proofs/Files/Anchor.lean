import BlackBox.Proofs.Files.Ways

/-!
# Relative and absolute paths

A path may be written from the current directory or from the root of the file system. `Anchored`
says that one path is the other, followed from the current directory. Each step of a search keeps
the relation (`Anchored.child`), and so does a search as a whole: below a relative root and below
the same root written in full the files are found at the ends of the same ways, in the same order
(`find_anchored`). Anchored paths lead to the same directories and to the same texts
(`Anchored.resolve_eq_folder_iff`, `Anchored.readText_eq`), and they are displayed alike
(`Anchored.display_eq`).
-/

namespace BlackBox

namespace Disk

open BlackBox.Path (isAbsolute steps)
open Directory (ProperName)
open Discovery (child next?)

/-- A path from the root of the file system is a relative one, followed from the current
directory. -/
structure Anchored (d : Disk) (path full : String) : Prop where
  /-- There is a relative path. -/
  ne_empty : path ≠ ""
  /-- It does not begin at the root. -/
  relative : isAbsolute path = false
  /-- The other one does. -/
  absolute : isAbsolute full = true
  /-- The steps from the root are those to the current directory and then those of the path. -/
  steps_eq : steps full.toList = steps d.current.toList ++ steps path.toList
  /-- The text of the path stands at the end of the full one, unless it is only a point. -/
  written : path = "." ∨ path.toList <:+ full.toList

variable {d : Disk} {path full part base : String} {names ps : List String}

/-! ## Steps -/

/-- A full path is not empty. -/
theorem Anchored.full_ne_empty (h : Anchored d path full) : full ≠ "" := by
  rintro rfl
  exact absurd h.absolute (by decide)

/-- A full path is no point. -/
theorem Anchored.full_ne_point (h : Anchored d path full) : full ≠ "." := by
  rintro rfl
  exact absurd h.absolute (by decide)

/-- The path of an entry is anchored where that of the directory is. -/
theorem Anchored.child (h : Anchored d path full) (hpart : '/' ∉ part.toList)
    (hne : child path part ≠ "") : Anchored d (child path part) (child full part) := by
  have hname : isAbsolute part = false := Path.isAbsolute_of_not_mem hpart
  refine ⟨hne, ?_, ?_, ?_, .inr ?_⟩
  · rw [Discovery.isAbsolute_child h.ne_empty hpart, h.relative]
  · rw [Discovery.isAbsolute_child h.full_ne_empty hpart, h.absolute]
  · rw [Discovery.steps_child h.full_ne_empty hpart, Discovery.steps_child h.ne_empty hpart,
      h.steps_eq, List.append_assoc]
  · -- From a point the path of the entry is its name alone, and else both paths are joined with it.
    rw [Discovery.child, Discovery.child, if_neg h.full_ne_point]
    split_ifs with hpoint
    · rw [Path.toList_join_eq h.full_ne_empty hname, ← List.append_assoc]
      exact List.suffix_append _ _
    · exact Path.suffix_join h.ne_empty hname (h.written.resolve_left hpoint)

/-- The path at the end of a way is anchored where that of the directory is. -/
theorem Anchored.foldl_child (h : Anchored d path full) (hnames : ∀ n ∈ names, ProperName n) :
    Anchored d (names.foldl Discovery.child path) (names.foldl Discovery.child full) := by
  induction names generalizing path full with
  | nil => exact h
  | cons name names ih =>
    rw [List.forall_mem_cons] at hnames
    exact ih (h.child hnames.1.no_separator (Discovery.child_ne_empty h.ne_empty hnames.1)) hnames.2

/-- Where the parts of a root are entered from a path, they are entered from the full path, and what
is reached is anchored. -/
theorem Anchored.foldlM_next (h : Anchored d path full) (hps : ∀ p ∈ ps, '/' ∉ p.toList)
    (hbase : ps.foldlM next? path = some base) :
    ∃ base', ps.foldlM next? full = some base' ∧ Anchored d base base' := by
  induction ps generalizing path full with
  | nil =>
    obtain rfl : path = base := Option.some.inj hbase
    exact ⟨full, rfl, h⟩
  | cons part ps ih =>
    rw [List.forall_mem_cons] at hps
    rw [List.foldlM_cons, Option.bind_eq_bind, Option.bind_eq_some_iff] at hbase
    obtain ⟨next, hnext, hbase⟩ := hbase
    obtain ⟨rfl, hne⟩ := Discovery.next?_eq_some_iff.mp hnext
    have hchild := h.child hps.1 hne
    have hnext : next? full part = some (Discovery.child full part) :=
      Discovery.next?_eq_some_iff.mpr ⟨rfl, hchild.full_ne_empty⟩
    rw [List.foldlM_cons, hnext]
    exact ih hchild hps.2 hbase

/-! ## Where anchored paths lead -/

/-- The current directory is there, and its path begins at the root of the file system. -/
structure Settled (d : Disk) : Prop where
  /-- The path is absolute. -/
  absolute : isAbsolute d.current = true
  /-- There is a directory. -/
  there : ∃ here around, d.resolve d.current = .ok (.folder here around)

/-- There is no null character in the path of a current directory that is there. -/
theorem Settled.nul_not_mem (h : d.Settled) (hplain : d.root.Plain) :
    '\x00' ∉ d.current.toList := by
  obtain ⟨here, around, hthere⟩ := h.there
  exact ((resolve_eq_folder_iff hplain).mp hthere).1.1

/-- Anchored paths have the same way. -/
theorem Anchored.way_eq (h : Anchored d path full) : d.way path = d.way full := by
  rw [way, way, h.relative, h.absolute, h.steps_eq]
  rfl

/-- A relative path is no longer than the full one. -/
theorem Anchored.size_le (h : Anchored d path full) : path.utf8ByteSize ≤ full.utf8ByteSize := by
  rw [← String.ofList_toList (s := path), ← String.ofList_toList (s := full),
    String.utf8ByteSize_ofList, String.utf8ByteSize_ofList]
  rcases h.written with rfl | hsuffix
  · -- The full path has at least the separator that it begins with.
    have hhead : '/' ∈ full.toList := List.mem_of_head? (beq_iff_eq.mp h.absolute)
    have hpoint : String.utf8Len ".".toList = String.utf8Len ['/'] := rfl
    rw [hpoint]
    exact String.utf8Len_le_of_sublist (List.singleton_sublist.mpr hhead)
  · exact String.utf8Len_le_of_sublist hsuffix.sublist

/-- There is a null character in a full path if there is one in the relative path. -/
theorem Anchored.nul_iff (h : Anchored d path full) (hcurrent : '\x00' ∉ d.current.toList) :
    '\x00' ∈ path.toList ↔ '\x00' ∈ full.toList := by
  rw [Path.mem_iff_mem_steps (by decide) (by decide)] at hcurrent ⊢
  rw [Path.mem_iff_mem_steps (s := full.toList) (by decide) (by decide), h.steps_eq]
  simp only [List.mem_append, or_and_right, exists_or, hcurrent, false_or]

/-- In a plain tree anchored paths lead to the same directories. -/
theorem Anchored.resolve_eq_folder_iff {here : Directory} {around : List Directory}
    (h : Anchored d path full) (hplain : d.root.Plain) (hcurrent : '\x00' ∉ d.current.toList)
    (hsize : full.utf8ByteSize ≤ Directory.maxPath) :
    d.resolve path = .ok (.folder here around) ↔ d.resolve full = .ok (.folder here around) := by
  rw [Disk.resolve_eq_folder_iff hplain, Disk.resolve_eq_folder_iff hplain, h.way_eq,
    h.nul_iff hcurrent]
  simp only [ne_eq, h.ne_empty, h.full_ne_empty, hsize, h.size_le.trans hsize]

/-- In a plain tree there is the same directory at anchored paths. -/
theorem Anchored.folder?_eq (h : Anchored d path full) (hplain : d.root.Plain)
    (hcurrent : '\x00' ∉ d.current.toList) (hsize : full.utf8ByteSize ≤ Directory.maxPath) :
    d.folder? path = d.folder? full := by
  refine Option.ext fun here => ?_
  rw [folder?_eq_some_iff, folder?_eq_some_iff]
  simp only [h.resolve_eq_folder_iff hplain hcurrent hsize]

/-- In a plain tree the same text is read at the ends of a way from anchored paths, or there is the
same fault. -/
theorem Anchored.readText_eq (h : Anchored d path full) (hplain : d.root.Plain)
    (hcurrent : '\x00' ∉ d.current.toList) (hnames : ∀ n ∈ names, ProperName n) (hne : names ≠ [])
    (hsize : (names.foldl Discovery.child full).utf8ByteSize ≤ Directory.maxPath) :
    d.readText (names.foldl Discovery.child path) =
      d.readText (names.foldl Discovery.child full) := by
  have hends := h.foldl_child hnames
  have hresolve : d.resolve (names.foldl Discovery.child path) =
      d.resolve (names.foldl Discovery.child full) := by
    -- A null character is in both paths or in none, and without one the common way decides.
    by_cases hnul : '\x00' ∈ (names.foldl Discovery.child path).toList
    · rw [resolve_of_nul hnul, resolve_of_nul ((hends.nul_iff hcurrent).mp hnul)]
    · rw [resolve_eq_advance hplain hnul hends.ne_empty (hends.size_le.trans hsize)
          (Discovery.leads_of_getLast?_foldl_child h.ne_empty hnames hne),
        resolve_eq_advance hplain (mt (hends.nul_iff hcurrent).mpr hnul) hends.full_ne_empty hsize
          (Discovery.leads_of_getLast?_foldl_child h.full_ne_empty hnames hne), hends.way_eq]
  rw [readText, readText, hresolve]

end Disk

/-! ## How anchored paths are displayed -/

namespace Path

variable {path : String}

/-- What follows some components in a list that begins with them. -/
theorem below?_append (base cs : List Component) : below? base (base ++ cs) = some cs := by
  induction base with
  | nil => rfl
  | cons b base ih =>
    rw [List.cons_append, below?, if_pos rfl]
    exact ih

/-- No point is among the components of an absolute path. -/
theorem components_of_isAbsolute (h : isAbsolute path = true) : components path = located path := by
  refine (List.filter_eq_self.mpr fun c hc => ?_).symm
  rw [decide_eq_true_eq]
  rw [components, if_pos h] at hc
  rcases List.mem_cons.mp hc with rfl | hc
  · exact Component.noConfusion
  · obtain ⟨part, -, hpart⟩ := List.mem_filterMap.mp hc
    rintro rfl
    exact ofPart?_ne_current hpart

/-- A path is put together from its components without the point that it may begin with. -/
theorem ofComponents_components (path : String) :
    ofComponents (components path) = ofComponents (located path) := by
  have hpoint : (fun c : Component => c != .current) = fun c => decide (c ≠ .current) := by
    funext c
    rw [Bool.eq_iff_iff, bne_iff_ne, decide_eq_true_eq]
  rw [ofComponents, ofComponents, hpoint, located, List.filter_filter]
  simp only [Bool.and_self]

end Path

namespace Disk

variable {d : Disk} {path full : String}

/-- The components of a full path are those of the current directory and then those of the relative
path. -/
theorem Anchored.located_eq (h : Anchored d path full)
    (hcurrent : Path.isAbsolute d.current = true) :
    Path.located full = Path.located d.current ++ Path.located path := by
  rw [Path.located_eq full, Path.located_eq d.current, Path.located_eq path, h.absolute, hcurrent,
    h.relative, h.steps_eq, List.filterMap_append, List.append_assoc]
  rfl

/-- Anchored paths are displayed alike, unless they lead out of the current directory. -/
theorem Anchored.display_eq (h : Anchored d path full) (hcurrent : Path.isAbsolute d.current = true)
    (hfirst : (Path.located path).head? ≠ some .parent) :
    Path.display d.current path = Path.display d.current full := by
  have hbelow : Path.below? (Path.components d.current) (Path.components full) =
      some (Path.located path) := by
    rw [Path.components_of_isAbsolute hcurrent, Path.components_of_isAbsolute h.absolute,
      h.located_eq hcurrent, Path.below?_append]
  rw [Path.display, Path.display, h.absolute, h.relative, hbelow, Path.ofComponents_components]
  -- The full path is shown from the current directory on.
  cases hcs : Path.located path with
  | nil => rfl
  | cons c cs =>
    rw [hcs] at hfirst
    cases c with
    | parent => exact absurd rfl hfirst
    | _ => rfl

end Disk

end BlackBox
