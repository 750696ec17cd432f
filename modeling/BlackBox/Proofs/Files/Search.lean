import BlackBox.Proofs.Files.Ways

/-!
# What a search comes to

A search lists directories: those on the way to the root that come before a part which does not
stand for itself, that of the root, and all below it (`Lists`). In a plain tree it comes to a
directory that cannot be listed exactly if there is one among these (`find_eq_error_iff`). Otherwise
it comes to the ends of all ways from the directory of the root (`search_of_open`), and the files
among them are what is found (`find_of_open`).
-/

namespace BlackBox.Discovery

open Directory (ProperName HasEntry HasFile HasFolder Plain)

variable {d : Disk} {jump : String → Directory → List Visit} {base name path part root : String}
  {here inside entries : Directory} {names parts files : List String} {b : Blocked}
  {log : List Log.Record}

/-- A directory cannot be listed if its path is too long or if it may not be. -/
theorem fault?_ne_none_iff : fault? path here ≠ none ↔
    Directory.maxPath < path.utf8ByteSize ∨ here.mayList = false := by
  rw [fault?]
  split_ifs with hlong hmay
  · simp [hlong]
  · simp [hlong, hmay]
  · simp [hmay]

/-! ## Below a directory -/

/-- What a search comes to at an entry itself is the end of its own way. -/
theorem called_eq_map : called base name =
    (own name).map fun names => (.ok (names.foldl child base) : Visit) := by
  rw [called, own]
  split_ifs
  · rfl
  · rfl

/-- An entry itself is nothing that cannot be listed. -/
theorem error_not_mem_called : (.error b : Visit) ∉ called base name := by
  rw [called_eq_map, List.mem_map]
  rintro ⟨names, -, h⟩
  cases h

/-- A directory that can be listed gives its entries. -/
theorem listed_of_open {entries : List Visit} (h : fault? path here = none) :
    listed path here entries = entries := by
  rw [listed, h]

/-- A directory that cannot be listed gives itself, and another one what is in it. -/
theorem error_mem_listed {entries : List Visit} : .error b ∈ listed path here entries ↔
    (b.path = path ∧ fault? path here = some b.fault) ∨
      (fault? path here = none ∧ .error b ∈ entries) := by
  rw [listed]
  cases hfault : fault? path here with
  | none => simp
  | some fault =>
    obtain ⟨at', fault'⟩ := b
    simp [eq_comm]

/-- If a directory gives nothing that cannot be listed, then it can be listed itself, and its
entries are nothing of the kind. -/
theorem open_of_listed {entries : List Visit} (hno : ∀ b, .error b ∉ listed path here entries) :
    fault? path here = none ∧ ∀ b, .error b ∉ entries := by
  simp only [error_mem_listed, not_or] at hno
  have hfault : fault? path here = none := by
    rw [Option.eq_none_iff_forall_ne_some]
    exact fun fault hfault => (hno ⟨path, fault⟩).1 ⟨rfl, hfault⟩
  exact ⟨hfault, fun b hb => (hno b).2 ⟨hfault, hb⟩⟩

/-- If every directory among some entries and below them can be listed, a search comes to the ends
of all ways. -/
theorem gather_of_open (h : entries.Plain) (hopen : ∀ names inside,
      entries.HasEntry names (.folder inside) → fault? (names.foldl child base) inside = none) :
    gather d jump base entries = (ways entries).map fun names => .ok (names.foldl child base) := by
  induction entries generalizing base with
  | empty => rfl
  | file name f rest ih =>
    have hrest := ih h.2.2 fun names inside hentry =>
      hopen names inside ((Directory.hasEntry_file h.2.1).mpr (.inr hentry))
    rw [gather, ways, List.map_append, hrest, called_eq_map]
  | link name target rest => exact h.elim
  | folder name inside rest ihInside ihRest =>
    -- A directory is looked into from its own path, and it is there by its name alone.
    have hfault : fault? (child base name) inside = none :=
      hopen [name] inside ((Directory.hasEntry_folder h.2.1).mpr (.inl ⟨rfl, rfl⟩))
    have hinside : gather d jump (child base name) inside =
        (ways inside).map fun names => .ok (names.foldl child (child base name)) :=
      ihInside h.2.2.1 fun names dir hdir => hopen (name :: names) dir
        ((Directory.hasEntry_folder h.2.1).mpr (.inr (.inl ⟨names, rfl, hdir⟩)))
    have hrest := ihRest h.2.2.2 fun names dir hdir =>
      hopen names dir ((Directory.hasEntry_folder h.2.1).mpr (.inr (.inr hdir)))
    rw [gather, ways, List.map_append, List.map_append, List.map_map, listed_of_open hfault,
      hinside, hrest, called_eq_map]
    rfl

/-- What a search comes to among some entries of a plain tree and cannot list is a directory among
them or below them. -/
theorem exists_of_error_mem_gather (h : entries.Plain)
    (hb : .error b ∈ gather d jump base entries) :
    ∃ names inside, entries.HasEntry names (.folder inside) ∧ b.path = names.foldl child base ∧
      fault? b.path inside = some b.fault := by
  induction entries generalizing base with
  | empty => exact absurd hb List.not_mem_nil
  | file name f rest ih =>
    rw [gather, List.mem_append, or_iff_right error_not_mem_called] at hb
    obtain ⟨names, inside, hentry, hpath⟩ := ih h.2.2 hb
    exact ⟨names, inside, (Directory.hasEntry_file h.2.1).mpr (.inr hentry), hpath⟩
  | link name target rest => exact h.elim
  | folder name inside rest ihInside ihRest =>
    rw [gather, List.mem_append, or_iff_right error_not_mem_called, List.mem_append,
      error_mem_listed] at hb
    rcases hb with (⟨hpath, hfault⟩ | ⟨-, hb⟩) | hb
    · refine ⟨[name], inside, ?_, hpath, hpath ▸ hfault⟩
      exact (Directory.hasEntry_folder h.2.1).mpr (.inl ⟨rfl, rfl⟩)
    · obtain ⟨names, dir, hdir, hpath⟩ := ihInside h.2.2.1 hb
      refine ⟨name :: names, dir, ?_, hpath⟩
      exact (Directory.hasEntry_folder h.2.1).mpr (.inr (.inl ⟨names, rfl, hdir⟩))
    · obtain ⟨names, dir, hdir, hpath⟩ := ihRest h.2.2.2 hb
      exact ⟨names, dir, (Directory.hasEntry_folder h.2.1).mpr (.inr (.inr hdir)), hpath⟩

/-- If a search comes to nothing that it cannot list, then every directory among the entries and
below them can be listed. -/
theorem fault?_of_gather (h : entries.Plain) (hno : ∀ b, .error b ∉ gather d jump base entries)
    (hentry : entries.HasEntry names (.folder inside)) :
    fault? (names.foldl child base) inside = none := by
  induction entries generalizing base names with
  | empty => exact absurd hentry Directory.not_hasEntry_empty
  | file name f rest ih =>
    rcases (Directory.hasEntry_file h.2.1).mp hentry with ⟨-, he⟩ | hentry
    · cases he
    · exact ih h.2.2 (fun b hb => hno b (List.mem_append_right _ hb)) hentry
  | link name target rest => exact h.elim
  | folder name sub rest ihInside ihRest =>
    simp only [gather, List.mem_append, not_or] at hno
    obtain ⟨hfault, hsub⟩ := open_of_listed fun b => (hno b).2.1
    rcases (Directory.hasEntry_folder h.2.1).mp hentry with
      ⟨rfl, he⟩ | ⟨below, rfl, hbelow⟩ | hrest
    · cases he
      exact hfault
    · rw [List.foldl_cons]
      exact ihInside h.2.2.1 hsub hbelow
    · exact ihRest h.2.2.2 (fun b => (hno b).2.2) hrest

/-- A search below a directory lists it and goes on with its entries. -/
theorem below_eq (d : Disk) (links : ℕ) (base : String) (here : Directory) :
    ∃ jump, below d links base here = listed base here (gather d jump base here) := by
  cases links with
  | zero => exact ⟨_, rfl⟩
  | succ links => exact ⟨_, rfl⟩

/-- If a directory and all below it can be listed, a search comes to the ends of all ways. -/
theorem below_of_open {links : ℕ} (h : here.Plain) (hopen : ∀ names inside,
      here.HasFolder names inside → fault? (names.foldl child base) inside = none) :
    below d links base here = (ways here).map fun names => .ok (names.foldl child base) := by
  obtain ⟨jump, hbelow⟩ := below_eq d links base here
  have hfault : fault? base here = none := hopen [] here (.inl ⟨rfl, rfl⟩)
  rw [hbelow, listed_of_open hfault]
  exact gather_of_open h fun names inside hentry => hopen names inside (.inr hentry)

/-- What a search below a directory of a plain tree cannot list is the directory or one below it. -/
theorem exists_of_error_mem_below {links : ℕ} (h : here.Plain)
    (hb : .error b ∈ below d links base here) :
    ∃ names inside, here.HasFolder names inside ∧ b.path = names.foldl child base ∧
      fault? b.path inside = some b.fault := by
  obtain ⟨jump, hbelow⟩ := below_eq d links base here
  rw [hbelow, error_mem_listed] at hb
  rcases hb with ⟨hpath, hfault⟩ | ⟨-, hb⟩
  · exact ⟨[], here, .inl ⟨rfl, rfl⟩, hpath, hpath ▸ hfault⟩
  · obtain ⟨names, inside, hentry, hpath⟩ := exists_of_error_mem_gather h hb
    exact ⟨names, inside, .inr hentry, hpath⟩

/-- If a search below a directory comes to nothing that it cannot list, then the directory and all
below it can be listed. -/
theorem fault?_of_below {links : ℕ} (h : here.Plain)
    (hno : ∀ b, .error b ∉ below d links base here) (hfolder : here.HasFolder names inside) :
    fault? (names.foldl child base) inside = none := by
  obtain ⟨jump, hbelow⟩ := below_eq d links base here
  obtain ⟨hfault, hentries⟩ := open_of_listed (hbelow ▸ hno)
  rcases hfolder with ⟨rfl, rfl⟩ | hentry
  · exact hfault
  · exact fault?_of_gather h hentries hentry

/-! ## Along a root -/

/-- A part that does not stand for itself leads to another place, and not to the directory above. -/
theorem leads_of_not_literal (h : isLiteral part = false) :
    Path.leads part.toList = true ∧ part ≠ ".." := by
  have hne : ∀ s : String, isLiteral s = true → part ≠ s := by
    rintro s hs rfl
    rw [hs] at h
    cases h
  rw [Path.leads, decide_eq_true_eq]
  exact ⟨⟨mt String.toList_eq_nil_iff.mp (hne "" (by decide)),
    fun hp => hne "." (by decide) (String.toList_inj.mp hp)⟩, hne ".." (by decide)⟩

/-- A directory that is looked up by a part which does not stand for itself is the one with that
name in the directory before it. -/
theorem folder?_child (h : d.root.Plain) (hhere : d.folder? path = some here)
    (hpart : isLiteral part = false) (hsep : '/' ∉ part.toList)
    (hsize : (child path part).utf8ByteSize ≤ Directory.maxPath) :
    d.folder? (child path part) = match here.find? part with
      | some (.folder inside) => some inside
      | _ => none := by
  have hplain : here.Plain := Disk.plain_of_folder? h hhere
  obtain ⟨hleads, hparent⟩ := leads_of_not_literal hpart
  obtain ⟨around, hfolder⟩ := Disk.folder?_eq_some_iff.mp hhere
  -- Only a proper name can be that of an entry, and only of such names it is known where a path of
  -- them leads.
  by_cases hname : ProperName part
  · have hproper : ∀ n ∈ [part], ProperName n := List.forall_mem_singleton.mpr hname
    have hend : child path part = [part].foldl child path := rfl
    rw [hend] at hsize ⊢
    rw [Disk.folder?, resolve_foldl_child h hfolder hproper (List.cons_ne_nil _ _) hsize,
      Directory.advance_of_name hleads hparent (Nat.not_lt.mpr hname.size_le)]
    cases hfound : here.find? part with
    | none => rfl
    | some e => cases e <;> rfl
  · -- There is no entry with the name, so that the path cannot lead to one either.
    have hnone : here.find? part = none := by
      by_contra hsome
      exact hname (hplain.properName hsome)
    rw [hnone, Option.eq_none_iff_forall_ne_some]
    intro dir hdir
    obtain ⟨outer, hresolve⟩ := Disk.folder?_eq_some_iff.mp hdir
    obtain ⟨⟨-, hpath, -⟩, hway⟩ := (Disk.resolve_eq_folder_iff h).mp hfolder
    have hstop := ((Disk.resolve_eq_folder_iff h).mp hresolve).2
    rw [way_child hpath hsep hleads, Directory.advance_append hway,
      Directory.advance_of_leads hleads, if_neg hparent, hnone] at hstop
    split_ifs at hstop

/-- A part of a root leads to the directory at the path after it, unless that before it has to be
listed and cannot be. -/
theorem enter_eq (h : d.root.Plain) (hhere : d.folder? path = some here)
    (hsep : '/' ∉ part.toList) (hsize : (child path part).utf8ByteSize ≤ Directory.maxPath)
    (hopen : isLiteral part = false → fault? path here = none) :
    enter d path here part = .ok (d.folder? (child path part)) := by
  rw [enter]
  split_ifs with hpart
  · rfl
  · rw [Bool.not_eq_true] at hpart
    have hplain : here.Plain := Disk.plain_of_folder? h hhere
    rw [hopen hpart, folder?_child h hhere hpart hsep hsize]
    cases hfound : here.find? part with
    | none => rfl
    | some e =>
      cases e with
      | file f => rfl
      | link target => exact absurd hfound hplain.find?_ne_link
      | folder inside => rfl

/-- Where the path after some parts leads to a directory, so does the one before them. -/
theorem exists_folder?_of_foldlM (h : d.root.Plain) (hpath : path ≠ "")
    (hparts : ∀ p ∈ parts, '/' ∉ p.toList) (hbase : parts.foldlM next? path = some base)
    (hhere : d.folder? base = some here) : ∃ dir, d.folder? path = some dir := by
  obtain ⟨around, hfolder⟩ := Disk.folder?_eq_some_iff.mp hhere
  obtain ⟨⟨hnul, -, hsize⟩, hway⟩ := (Disk.resolve_eq_folder_iff h).mp hfolder
  have hentered := entered_of_foldlM hpath hparts hbase
  have hextends : d.way base = d.way path ++
      (parts.flatMap fun p => Path.steps p.toList).map String.ofList := by
    rw [Disk.way, Disk.way, hentered.isAbsolute_eq, hentered.steps_eq, ← List.append_assoc,
      List.map_append]
  rw [hextends] at hway
  obtain ⟨dir, outer, hstop⟩ := Directory.exists_of_advance_append hway
  have hnul' : '\x00' ∉ path.toList := by
    rw [Path.mem_iff_mem_steps (by decide) (by decide)] at hnul ⊢
    rw [hentered.steps_eq] at hnul
    rintro ⟨p, hp, hmem⟩
    exact hnul ⟨p, List.mem_append_left _ hp, hmem⟩
  exact ⟨dir, Disk.folder?_eq_some_iff.mpr ⟨outer, (Disk.resolve_eq_folder_iff h).mpr
    ⟨⟨hnul', hpath, (size_le_of_foldlM hpath hparts hbase).trans hsize⟩, hstop⟩⟩⟩

/-- A directory that is listed on the way from a path along some parts: the part that comes next
does not stand for itself. -/
def OnTheWay (d : Disk) (path : String) (parts : List String) (place : String) (dir : Directory) :
    Prop :=
  ∃ front part rest, parts = front ++ part :: rest ∧ isLiteral part = false ∧
    front.foldlM next? path = some place ∧ d.folder? place = some dir

/-- Along parts that stand for themselves no directory is listed. -/
theorem not_onTheWay_of_literal {place : String} {dir : Directory}
    (h : ∀ p ∈ parts, isLiteral p = true) : ¬OnTheWay d path parts place dir := by
  rintro ⟨front, part, rest, rfl, hpart, -⟩
  have hliteral : isLiteral part = true := h part (List.mem_append_right _ List.mem_cons_self)
  rw [hliteral] at hpart
  cases hpart

/-- There is nothing on the way along no parts. -/
theorem not_onTheWay_nil {place : String} {dir : Directory} : ¬OnTheWay d path [] place dir :=
  not_onTheWay_of_literal (List.forall_mem_nil _)

/-- On the way along some parts are the path that they begin at, if the first one does not stand for
itself, and what is on the way along the others. -/
theorem onTheWay_cons {place : String} {dir : Directory} (hnext : next? path part = some name) :
    OnTheWay d path (part :: parts) place dir ↔
      (isLiteral part = false ∧ place = path ∧ d.folder? path = some dir) ∨
        OnTheWay d name parts place dir := by
  constructor
  · rintro ⟨front, first, rest, hparts, hfirst, hplace, hdir⟩
    cases front with
    | nil =>
      obtain ⟨rfl, rfl⟩ := List.cons.inj hparts
      obtain rfl : path = place := Option.some.inj hplace
      exact .inl ⟨hfirst, rfl, hdir⟩
    | cons p front =>
      obtain ⟨rfl, rfl⟩ := List.cons.inj hparts
      rw [List.foldlM_cons, hnext] at hplace
      exact .inr ⟨front, first, rest, rfl, hfirst, hplace, hdir⟩
  · rintro (⟨hpart, rfl, hdir⟩ | ⟨front, first, rest, rfl, hfirst, hplace, hdir⟩)
    · exact ⟨[], part, parts, rfl, hpart, rfl, hdir⟩
    · refine ⟨part :: front, first, rest, rfl, hfirst, ?_, hdir⟩
      rw [List.foldlM_cons, hnext]
      exact hplace

/-- On the way along some parts and then further ones are what is on the way along the first ones,
and what is on the way along the others from where the first ones lead. -/
theorem onTheWay_append {parts' : List String} {place : String} {dir : Directory}
    (hmid : parts.foldlM next? path = some base) :
    OnTheWay d path (parts ++ parts') place dir ↔
      OnTheWay d path parts place dir ∨ OnTheWay d base parts' place dir := by
  induction parts generalizing path with
  | nil =>
    obtain rfl : path = base := Option.some.inj hmid
    rw [List.nil_append, or_iff_right not_onTheWay_nil]
  | cons part parts ih =>
    rw [List.foldlM_cons, Option.bind_eq_bind, Option.bind_eq_some_iff] at hmid
    obtain ⟨name, hnext, hmid⟩ := hmid
    rw [List.cons_append, onTheWay_cons hnext, onTheWay_cons hnext, ih hmid, or_assoc]

/-- If there is no directory at a path, then there is none on the way from it along some parts, and
none at the path after them. -/
theorem no_folder_of_no_folder (h : d.root.Plain) (hpath : path ≠ "")
    (hparts : ∀ p ∈ parts, '/' ∉ p.toList) (hbase : parts.foldlM next? path = some base)
    (hnone : d.folder? path = none) :
    (∀ place dir, ¬OnTheWay d path parts place dir) ∧ d.folder? base = none := by
  have hno : ∀ dir, d.folder? path ≠ some dir := Option.eq_none_iff_forall_ne_some.mp hnone
  constructor
  · rintro place dir ⟨front, part, rest, rfl, -, hplace, hdir⟩
    obtain ⟨dir', hdir'⟩ := exists_folder?_of_foldlM h hpath
      (fun p hp => hparts p (List.mem_append_left _ hp)) hplace hdir
    exact hno dir' hdir'
  · rw [Option.eq_none_iff_forall_ne_some]
    intro dir hdir
    obtain ⟨dir', hdir'⟩ := exists_folder?_of_foldlM h hpath hparts hbase hdir
    exact hno dir' hdir'

/-- From the directory at a path a search along some parts comes to a directory on the way that
cannot be listed. Or all of these can be listed, and it goes on below the directory at the path
after the parts, if there is one. -/
theorem along_cases (h : d.root.Plain) (hpath : path ≠ "") (hparts : ∀ p ∈ parts, '/' ∉ p.toList)
    (hhere : d.folder? path = some here) (hbase : parts.foldlM next? path = some base)
    (hsize : base.utf8ByteSize ≤ Directory.maxPath) :
    (∃ place dir fault, OnTheWay d path parts place dir ∧ fault? place dir = some fault ∧
        along d path here parts = [.error ⟨place, fault⟩]) ∨
      (∀ place dir, OnTheWay d path parts place dir → fault? place dir = none) ∧
        along d path here parts = match d.folder? base with
          | some dir => below d Directory.maxLinks base dir
          | none => [] := by
  induction parts generalizing path here with
  | nil =>
    obtain rfl : path = base := Option.some.inj hbase
    refine .inr ⟨fun _ _ hway => absurd hway not_onTheWay_nil, ?_⟩
    rw [hhere]
    rfl
  | cons part parts ih =>
    rw [List.forall_mem_cons] at hparts
    rw [List.foldlM_cons, Option.bind_eq_bind, Option.bind_eq_some_iff] at hbase
    obtain ⟨name, hnext, hbase⟩ := hbase
    obtain ⟨rfl, hne⟩ := next?_eq_some_iff.mp hnext
    have hsize' := (size_le_of_foldlM hne hparts.2 hbase).trans hsize
    -- If the directory itself has to be listed and cannot be, the search ends here.
    by_cases hblocked : isLiteral part = false ∧ fault? path here ≠ none
    · obtain ⟨hpart, hfault⟩ := hblocked
      obtain ⟨fault, hfault⟩ := Option.ne_none_iff_exists'.mp hfault
      have hon : OnTheWay d path (part :: parts) path here :=
        (onTheWay_cons hnext).mpr (.inl ⟨hpart, rfl, hhere⟩)
      refine .inl ⟨path, here, fault, hon, hfault, ?_⟩
      rw [along, enter, if_neg (by simp [hpart]), hfault]
    · have hopen : isLiteral part = false → fault? path here = none := by
        intro hpart
        by_contra hfault
        exact hblocked ⟨hpart, hfault⟩
      have hfirst : ∀ place dir, OnTheWay d path (part :: parts) place dir →
          fault? place dir = none ∨ OnTheWay d (child path part) parts place dir := by
        intro place dir hway
        rcases (onTheWay_cons hnext).mp hway with ⟨hpart, rfl, hdir⟩ | hway
        · rw [hhere, Option.some.injEq] at hdir
          exact .inl (hdir ▸ hopen hpart)
        · exact .inr hway
      rw [along, enter_eq h hhere hparts.1 hsize' hopen]
      cases hfolder : d.folder? (child path part) with
      | none =>
        -- No path that goes on from here leads to a directory.
        obtain ⟨hnoway, hend⟩ := no_folder_of_no_folder h hne hparts.2 hbase hfolder
        refine .inr ⟨fun place dir hon => (hfirst place dir hon).resolve_right (hnoway _ _), ?_⟩
        rw [hend]
      | some next =>
        rcases ih hne hparts.2 hfolder hbase with
          ⟨place, dir, fault, hway, hfault, halong⟩ | ⟨hway, halong⟩
        · exact .inl ⟨place, dir, fault, (onTheWay_cons hnext).mpr (.inr hway), hfault, halong⟩
        · exact .inr ⟨fun place dir hon => (hfirst place dir hon).elim id (hway place dir), halong⟩

/-! ## Below a root -/

/-- The directories that a search below a root lists, each with its path: those on the way to the
root, and the one that the root leads to with all below it. -/
inductive Lists (d : Disk) (root : String) : String → Directory → Prop where
  | onTheWay {place : String} {dir : Directory} :
      OnTheWay d (start root) (rootParts root) place dir → Lists d root place dir
  | below {base : String} {here dir : Directory} {names : List String} :
      rootPath? root = some base → d.folder? base = some here → here.HasFolder names dir →
        Lists d root (names.foldl child base) dir

/-- A search below a root comes to a directory on the way that cannot be listed. Or all of these can
be listed, and it goes on below the directory of the root, if there is one. -/
theorem search_cases (h : d.root.Plain) (hbase : rootPath? root = some base)
    (hsize : base.utf8ByteSize ≤ Directory.maxPath) :
    (∃ place dir fault, OnTheWay d (start root) (rootParts root) place dir ∧
        fault? place dir = some fault ∧ search d root = [.error ⟨place, fault⟩]) ∨
      (∀ place dir, OnTheWay d (start root) (rootParts root) place dir →
          fault? place dir = none) ∧
        search d root = match d.folder? base with
          | some dir => below d Directory.maxLinks base dir
          | none => [] := by
  have hne := start_ne_empty root
  have hparts : ∀ p ∈ rootParts root, '/' ∉ p.toList := fun p hp => not_mem_of_mem_rootParts hp
  rw [search]
  cases hstart : d.folder? (start root) with
  | some here => exact along_cases h hne hparts hstart hbase hsize
  | none =>
    obtain ⟨hnoway, hend⟩ := no_folder_of_no_folder h hne hparts hbase hstart
    refine .inr ⟨fun place dir hway => absurd hway (hnoway place dir), ?_⟩
    rw [hend]

/-- What a search below a root comes to and cannot list is one of the directories that it lists. -/
theorem lists_of_error_mem (h : d.root.Plain) (hbase : rootPath? root = some base)
    (hsize : base.utf8ByteSize ≤ Directory.maxPath) (hb : .error b ∈ search d root) :
    ∃ dir, Lists d root b.path dir ∧ fault? b.path dir = some b.fault := by
  rcases search_cases h hbase hsize with ⟨place, dir, fault, hway, hfault, hsearch⟩ | ⟨-, hsearch⟩
  · rw [hsearch, List.mem_singleton] at hb
    cases hb
    exact ⟨dir, .onTheWay hway, hfault⟩
  · rw [hsearch] at hb
    cases hend : d.folder? base with
    | none =>
      rw [hend] at hb
      exact absurd hb List.not_mem_nil
    | some here =>
      rw [hend] at hb
      obtain ⟨names, dir, hdir, hpath, hfault⟩ :=
        exists_of_error_mem_below (Disk.plain_of_folder? h hend) hb
      exact ⟨dir, hpath ▸ .below hbase hend hdir, hfault⟩

/-- If a search below a root comes to nothing that it cannot list, then all that it lists can be
listed. -/
theorem fault?_of_lists {place : String} {dir : Directory} (h : d.root.Plain)
    (hbase : rootPath? root = some base) (hsize : base.utf8ByteSize ≤ Directory.maxPath)
    (hno : ∀ b, .error b ∉ search d root) (hlists : Lists d root place dir) :
    fault? place dir = none := by
  rcases search_cases h hbase hsize with ⟨at', -, fault, -, -, hsearch⟩ | ⟨hway, hsearch⟩
  · refine absurd ?_ (hno ⟨at', fault⟩)
    rw [hsearch]
    exact List.mem_singleton_self _
  · cases hlists with
    | onTheWay hon => exact hway _ _ hon
    | below hbase' hend hdir =>
      rw [hbase, Option.some.injEq] at hbase'
      subst hbase'
      rw [hend] at hsearch
      exact fault?_of_below (Disk.plain_of_folder? h hend) (hsearch ▸ hno) hdir

/-- The ways from the directory at a path, if there is one. -/
def waysFrom (d : Disk) (base : String) : List (List String) :=
  match d.folder? base with
  | some here => ways here
  | none => []

/-- The ways from the directory at a path. -/
theorem mem_waysFrom :
    names ∈ waysFrom d base ↔ ∃ here, d.folder? base = some here ∧ names ∈ ways here := by
  rw [waysFrom]
  cases hend : d.folder? base with
  | none => simp
  | some here => simp

/-- No way from a directory is listed twice. -/
theorem nodup_waysFrom (h : d.root.Plain) : (waysFrom d base).Nodup := by
  rw [waysFrom]
  cases hend : d.folder? base with
  | none => exact List.nodup_nil
  | some here => exact nodup_ways (Disk.plain_of_folder? h hend)

/-- There are proper names on a way from a directory. -/
theorem properName_of_mem_waysFrom (h : d.root.Plain) (hnames : names ∈ waysFrom d base) :
    names ≠ [] ∧ ∀ n ∈ names, ProperName n := by
  obtain ⟨here, hend, hnames⟩ := mem_waysFrom.mp hnames
  have hplain := Disk.plain_of_folder? h hend
  exact ⟨ne_nil_of_mem_ways hplain hnames, properName_of_mem_ways hplain hnames⟩

/-- If all that a search lists can be listed, it comes to the ends of all ways from the root. -/
theorem search_of_open (h : d.root.Plain) (hbase : rootPath? root = some base)
    (hsize : base.utf8ByteSize ≤ Directory.maxPath)
    (hopen : ∀ place dir, Lists d root place dir → fault? place dir = none) :
    search d root = (waysFrom d base).map fun names => .ok (names.foldl child base) := by
  rcases search_cases h hbase hsize with ⟨place, dir, fault, hway, hfault, -⟩ | ⟨-, hsearch⟩
  · rw [hopen place dir (.onTheWay hway)] at hfault
    cases hfault
  · rw [hsearch, waysFrom]
    cases hend : d.folder? base with
    | none => rfl
    | some here =>
      exact below_of_open (Disk.plain_of_folder? h hend) fun names dir hdir =>
        hopen _ dir (.below hbase hend hdir)

/-! ## What is found -/

/-- The ways from a directory that end at files. -/
def fileWays (d : Disk) (base : String) : List (List String) :=
  (waysFrom d base).filter fun names => (d.file? (names.foldl child base)).isSome

/-- The ways that end at files lead to a file with the name of a test file, and the path at their
end is not too long. -/
theorem mem_fileWays (h : d.root.Plain) : names ∈ fileWays d base ↔
    ∃ here, d.folder? base = some here ∧ here.HasFile names ∧ EndsAsTestFile names ∧
      (names.foldl child base).utf8ByteSize ≤ Directory.maxPath := by
  rw [fileWays, List.mem_filter, mem_waysFrom]
  constructor
  · rintro ⟨⟨here, hend, hnames⟩, hfile⟩
    have hplain := Disk.plain_of_folder? h hend
    obtain ⟨around, hfolder⟩ := Disk.folder?_eq_some_iff.mp hend
    obtain ⟨hhas, hsize⟩ := (file?_foldl_child h hfolder (properName_of_mem_ways hplain hnames)
      (ne_nil_of_mem_ways hplain hnames)).mp hfile
    exact ⟨here, hend, hhas, ((mem_ways hplain).mp hnames).2, hsize⟩
  · rintro ⟨here, hend, hhas, hname, hsize⟩
    have hplain := Disk.plain_of_folder? h hend
    obtain ⟨around, hfolder⟩ := Disk.folder?_eq_some_iff.mp hend
    obtain ⟨f, hentry⟩ := hhas
    refine ⟨⟨here, hend, (mem_ways hplain).mpr ⟨⟨_, hentry⟩, hname⟩⟩, ?_⟩
    exact (file?_foldl_child h hfolder (fun n hn => hplain.properName_of_hasEntry hentry hn)
      hentry.ne_nil).mpr ⟨⟨f, hentry⟩, hsize⟩

/-- There are proper names on a way that ends at a file. -/
theorem properName_of_mem_fileWays (h : d.root.Plain) (hnames : names ∈ fileWays d base) :
    names ≠ [] ∧ ∀ n ∈ names, ProperName n :=
  properName_of_mem_waysFrom h (List.mem_of_mem_filter hnames)

/-- If all that a search lists can be listed, the test files are found: the ends of the ways to
files, in the order of the ways. -/
theorem find_of_open (h : d.root.Plain) (hbase : rootPath? root = some base)
    (hsize : base.utf8ByteSize ≤ Directory.maxPath)
    (hopen : ∀ place dir, Lists d root place dir → fault? place dir = none) :
    ∃ log, find d root =
      .ok (((fileWays d base).mergeSort wayLe).map fun names => names.foldl child base, log) := by
  have hsearch := search_of_open h hbase hsize hopen
  rcases find_cases d root with ⟨b, hb, -⟩ | ⟨-, log, hfind⟩
  · rw [hsearch, List.mem_map] at hb
    obtain ⟨names, -, hb⟩ := hb
    cases hb
  · have hpaths : paths (search d root) =
        (waysFrom d base).map fun names => names.foldl child base := by
      rw [hsearch, paths, List.filterMap_map]
      exact congrFun List.filterMap_eq_map' _
    refine ⟨log, ?_⟩
    rw [hfind, hpaths, List.filter_map]
    -- It is the same to follow the ways and put the paths in order, or the other way round.
    refine congrArg (fun files => Except.ok (files, log)) (List.map_mergeSort ?_).symm
    intro names hn names' hn'
    have hbase_ne := (entered_of_rootPath? hbase).1
    obtain ⟨hne, hproper⟩ := properName_of_mem_fileWays h hn
    obtain ⟨hne', hproper'⟩ := properName_of_mem_fileWays h hn'
    exact (le_foldl_child hbase_ne hproper hne hproper' hne').symm

/-- A search below a root fails exactly if something that it lists cannot be listed, and then with
such a directory. -/
theorem find_eq_error_iff (h : d.root.Plain) (hbase : rootPath? root = some base)
    (hsize : base.utf8ByteSize ≤ Directory.maxPath) :
    ((∃ b, find d root = .error b) ↔
        ∃ place dir, Lists d root place dir ∧ fault? place dir ≠ none) ∧
      ∀ b, find d root = .error b →
        ∃ dir, Lists d root b.path dir ∧ fault? b.path dir = some b.fault := by
  -- A search fails only with something that it has come to.
  have hlists : ∀ b, find d root = .error b →
      ∃ dir, Lists d root b.path dir ∧ fault? b.path dir = some b.fault := by
    intro b hb
    rcases find_cases d root with ⟨b', hmem, hfind⟩ | ⟨-, log, hfind⟩
    · rw [hfind, Except.error.injEq] at hb
      exact lists_of_error_mem h hbase hsize (hb ▸ hmem)
    · rw [hfind] at hb
      cases hb
  refine ⟨⟨?_, ?_⟩, hlists⟩
  · rintro ⟨b, hb⟩
    obtain ⟨dir, hdir, hfault⟩ := hlists b hb
    exact ⟨b.path, dir, hdir, hfault ▸ Option.some_ne_none _⟩
  · rintro ⟨place, dir, hdir, hfault⟩
    rcases find_cases d root with ⟨b, -, hfind⟩ | ⟨hno, -⟩
    · exact ⟨b, hfind⟩
    · exact absurd (fault?_of_lists h hbase hsize hno hdir) hfault

/-- A search that does not fail finds the ends of the ways to files, in the order of the ways. -/
theorem files_eq_map (h : d.root.Plain) (hbase : rootPath? root = some base)
    (hsize : base.utf8ByteSize ≤ Directory.maxPath) (hfind : find d root = .ok (files, log)) :
    files = ((fileWays d base).mergeSort wayLe).map fun names => names.foldl child base := by
  have hopen : ∀ place dir, Lists d root place dir → fault? place dir = none := by
    intro place dir hlists
    by_contra hfault
    obtain ⟨b, hb⟩ := (find_eq_error_iff h hbase hsize).1.mpr ⟨place, dir, hlists, hfault⟩
    rw [hfind] at hb
    cases hb
  obtain ⟨log', hfind'⟩ := find_of_open h hbase hsize hopen
  rw [hfind, Except.ok.injEq, Prod.mk.injEq] at hfind'
  exact hfind'.1

/-- Nothing is found below a root that begins with points and a repeated separator, and the search
does not fail. -/
theorem find_of_stray (h : Stray root) : ∃ log, find d root = .ok ([], log) := by
  obtain ⟨k, rest, hparts⟩ := h.rootParts_eq
  have hstart : start root = "." := if_neg h.not_isAbsolute
  -- The points lead nowhere else, and nothing is at the empty path after them.
  have halong : ∀ here, d.folder? "." = some here →
      along d "." here (List.replicate k "." ++ "" :: rest) = [] := by
    intro here hhere
    clear hparts
    induction k with
    | zero => rfl
    | succ k ih =>
      have henter : enter d "." here "." = .ok (d.folder? ".") := rfl
      rw [List.replicate_succ, List.cons_append, along, henter, hhere]
      exact ih
  have hsearch : search d root = [] := by
    rw [search, hstart, hparts]
    cases hhere : d.folder? "." with
    | none => rfl
    | some here => exact halong here hhere
  rcases find_cases d root with ⟨b, hb, -⟩ | ⟨-, log, hfind⟩
  · rw [hsearch] at hb
    exact absurd hb List.not_mem_nil
  · refine ⟨log, ?_⟩
    rw [hfind, hsearch]
    exact congrArg (fun files => Except.ok (files, log)) (List.mergeSort_nil)

end BlackBox.Discovery
