import BlackBox.Proofs.Files.Parts

/-!
# Directory trees without symbolic links

In a plain tree no symbolic link is met on the way along a path, so that a path leads where its
steps lead (`resolve_eq_folder_iff`). The entries of a tree are known by the names on the way to
them (`HasEntry`), and these are found by cases on the entries of a directory, one after the other.
A path of such names leads to a file exactly if there is one at the end of them
(`advance_eq_file_iff`).
-/

namespace BlackBox

namespace Directory

open BlackBox.Path (leads steps)

/-! ## Plain trees -/

/-- The names that an entry may have. -/
structure ProperName (name : String) : Prop where
  /-- It is not empty. -/
  ne_empty : name ≠ ""
  /-- It is not the name of this directory. -/
  ne_point : name ≠ "."
  /-- It is not the name of the directory above. -/
  ne_parent : name ≠ ".."
  /-- There is no separator in it. -/
  no_separator : '/' ∉ name.toList
  /-- There is no null character in it. -/
  no_nul : '\x00' ∉ name.toList
  /-- It is not too long. -/
  size_le : name.utf8ByteSize ≤ maxName

/-- It can be decided whether a name is proper. -/
instance (name : String) : Decidable (ProperName name) :=
  decidable_of_iff (name ≠ "" ∧ name ≠ "." ∧ name ≠ ".." ∧ '/' ∉ name.toList ∧
      '\x00' ∉ name.toList ∧ name.utf8ByteSize ≤ maxName)
    ⟨fun ⟨h₁, h₂, h₃, h₄, h₅, h₆⟩ => ⟨h₁, h₂, h₃, h₄, h₅, h₆⟩,
      fun h => ⟨h.ne_empty, h.ne_point, h.ne_parent, h.no_separator, h.no_nul, h.size_le⟩⟩

/-- A proper name leads to another place. -/
theorem ProperName.leads {name : String} (h : ProperName name) : leads name.toList = true := by
  rw [Path.leads, decide_eq_true_eq]
  exact ⟨mt String.toList_eq_nil_iff.mp h.ne_empty, fun hp => h.ne_point (String.toList_inj.mp hp)⟩

/-- A tree without symbolic links. The names of its entries are proper, and no two entries of a
directory have the same. -/
def Plain : Directory → Prop
  | empty _ => True
  | file name _ rest => ProperName name ∧ rest.find? name = none ∧ Plain rest
  | link _ _ _ => False
  | folder name inside rest =>
    ProperName name ∧ rest.find? name = none ∧ Plain inside ∧ Plain rest

/-- It can be decided whether a tree is plain. -/
instance Plain.decidable : (d : Directory) → Decidable d.Plain
  | empty _ => .isTrue trivial
  | file name _ rest =>
    have := Plain.decidable rest
    inferInstanceAs (Decidable (ProperName name ∧ rest.find? name = none ∧ Plain rest))
  | link _ _ _ => .isFalse id
  | folder name inside rest =>
    have := Plain.decidable inside
    have := Plain.decidable rest
    inferInstanceAs
      (Decidable (ProperName name ∧ rest.find? name = none ∧ Plain inside ∧ Plain rest))

variable {d here inside rest : Directory} {around : List Directory} {name n : String}
  {names parts : List String}

/-- What is found in a plain tree has a proper name, and it is a file or a plain directory. -/
theorem Plain.of_find?_eq_some {e : Entry} (h : d.Plain) (hname : d.find? name = some e) :
    ProperName name ∧ ((∃ f, e = .file f) ∨ ∃ inside, e = .folder inside ∧ inside.Plain) := by
  induction d with
  | empty _ => cases hname
  | file n f rest ih =>
    rw [find?] at hname
    split_ifs at hname with hn
    · exact ⟨hn ▸ h.1, .inl ⟨f, (Option.some.inj hname).symm⟩⟩
    · exact ih h.2.2 hname
  | link n t rest => exact h.elim
  | folder n inside rest _ ih =>
    rw [find?] at hname
    split_ifs at hname with hn
    · exact ⟨hn ▸ h.1, .inr ⟨inside, (Option.some.inj hname).symm, h.2.2.1⟩⟩
    · exact ih h.2.2.2 hname

/-- There is no symbolic link in a plain tree. -/
theorem Plain.find?_ne_link {target : String} (h : d.Plain) :
    d.find? name ≠ some (.link target) := by
  intro hname
  rcases (h.of_find?_eq_some hname).2 with ⟨f, hf⟩ | ⟨inside, hinside, -⟩
  · cases hf
  · cases hinside

/-- The directories of a plain tree are plain. -/
theorem Plain.of_find? (h : d.Plain) (hname : d.find? name = some (.folder inside)) :
    inside.Plain := by
  rcases (h.of_find?_eq_some hname).2 with ⟨f, hf⟩ | ⟨i, hi, hplain⟩
  · cases hf
  · cases hi
    exact hplain

/-- The entries of a plain tree have proper names. -/
theorem Plain.properName (h : d.Plain) (hname : d.find? name ≠ none) : ProperName name := by
  obtain ⟨e, he⟩ := Option.ne_none_iff_exists'.mp hname
  exact (h.of_find?_eq_some he).1

/-! ## The parts of a path -/

/-- The parts of a path are those before a separator and those after it. -/
theorem pathParts_append (path path' : String) :
    pathParts (path ++ "/" ++ path') = pathParts path ++ pathParts path' := by
  have htext : (path ++ "/" ++ path').toList = path.toList ++ '/' :: path'.toList := by
    rw [String.toList_append, String.toList_append, List.append_assoc]
    rfl
  rw [pathParts, htext, Path.parts_append, List.map_append]
  rfl

/-- Every path has a part. -/
theorem pathParts_ne_nil (path : String) : pathParts path ≠ [] :=
  mt List.map_eq_nil_iff.mp (Path.parts_ne_nil _)

/-! ## Following paths -/

/-- A part that does not lead to another place is passed over. -/
theorem advance_of_not_leads {part : String} (h : leads part.toList = false) :
    advance here around (part :: parts) = advance here around parts := by
  have hdrop : part = "" ∨ part = "." := by
    rw [leads, decide_eq_false_iff_not, not_and_or, not_not, not_not] at h
    exact h.imp String.toList_eq_nil_iff.mp fun hpoint => String.toList_inj.mp hpoint
  rw [advance.eq_def]
  exact if_pos hdrop

/-- A part that leads to another place is the name of an entry or that of the directory above. -/
theorem advance_of_leads {part : String} (h : leads part.toList = true) :
    advance here around (part :: parts) =
      if part = ".." then advance (around.headD here) around.tail parts
      else if maxName < part.utf8ByteSize then .error .tooLong
      else match here.find? part with
        | none => .error .notFound
        | some (.file f) => if parts.isEmpty then .ok (.file f) else .error .notDirectory
        | some (.folder inside) => advance inside (here :: around) parts
        | some (.link target) => .ok (.link target here around parts) := by
  have hkept : ¬(part = "" ∨ part = ".") := by
    rw [leads, decide_eq_true_eq] at h
    rintro (rfl | rfl)
    · exact h.1 rfl
    · exact h.2 rfl
  rw [advance.eq_def]
  refine (if_neg hkept).trans ?_
  cases around with
  | nil => rfl
  | cons outer around => rfl

/-- A part that is the name of an entry leads to that entry. -/
theorem advance_of_name {part : String} (h : leads part.toList = true) (hparent : part ≠ "..")
    (hlong : ¬maxName < part.utf8ByteSize) (here : Directory) (around : List Directory)
    (parts : List String) : advance here around (part :: parts) =
      match here.find? part with
      | none => .error .notFound
      | some (.file f) => if parts.isEmpty then .ok (.file f) else .error .notDirectory
      | some (.folder inside) => advance inside (here :: around) parts
      | some (.link target) => .ok (.link target here around parts) := by
  rw [advance_of_leads h, if_neg hparent, if_neg hlong]

/-- Whether some parts lead to a file and then go on to no other place. -/
def Overshoots (here : Directory) (around : List Directory) (parts : List String) : Prop :=
  (∃ f, advance here around (parts.filter fun p => leads p.toList) = .ok (.file f)) ∧
    advance here around parts = .error .notDirectory ∧
      ∃ last ∈ parts.getLast?, leads last.toList = false

/-- If the first part leads to a directory, the others decide. -/
theorem overshoots_or_of_step {part : String} {here' : Directory} {around' : List Directory}
    (hstep : here.advance around (part :: parts) = here'.advance around' parts)
    (hfilter : here.advance around ((part :: parts).filter fun p => leads p.toList) =
      here'.advance around' (parts.filter fun p => leads p.toList))
    (h : Overshoots here' around' parts ∨ here'.advance around' parts =
      here'.advance around' (parts.filter fun p => leads p.toList)) :
    Overshoots here around (part :: parts) ∨ here.advance around (part :: parts) =
      here.advance around ((part :: parts).filter fun p => leads p.toList) := by
  rw [Overshoots, hstep, hfilter]
  refine h.imp_left ?_
  rintro ⟨hfile, hfault, last, hlast, hno⟩
  exact ⟨hfile, hfault, last, List.mem_getLast?_cons hlast, hno⟩

/-- If the first part leads to a file, it matters whether others follow and whether these lead to
another place. -/
theorem overshoots_or_of_file {part : String} {f : File} (hleads : leads part.toList = true)
    (hstep : ∀ ps : List String, here.advance around (part :: ps) =
      if ps.isEmpty then .ok (.file f) else .error .notDirectory) :
    Overshoots here around (part :: parts) ∨ here.advance around (part :: parts) =
      here.advance around ((part :: parts).filter fun p => leads p.toList) := by
  rw [Overshoots, List.filter_cons_of_pos (by simp [hleads]), hstep, hstep]
  by_cases hnone : parts.filter (fun p => leads p.toList) = []
  · -- Nothing follows that leads to another place: only the end of the path may differ.
    rw [hnone]
    cases hlast : parts.getLast? with
    | none =>
      rw [List.getLast?_eq_none_iff.mp hlast]
      exact .inr rfl
    | some last =>
      have hmem : last ∈ parts := List.mem_of_getLast? hlast
      have hno : leads last.toList = false := by
        simpa using List.filter_eq_nil_iff.mp hnone last hmem
      have hne : parts.isEmpty = false := by
        rw [List.isEmpty_eq_false_iff]
        exact List.ne_nil_of_mem hmem
      exact .inl ⟨⟨f, rfl⟩, by rw [hne]; rfl, last, List.mem_getLast?_cons hlast, hno⟩
  · -- On both sides the path goes on from a file.
    have hne : parts.isEmpty = false := by
      rw [List.isEmpty_eq_false_iff]
      rintro rfl
      exact hnone rfl
    rw [hne, List.isEmpty_eq_false_iff.mpr hnone]
    exact .inr rfl

/-- In a plain tree the parts that do not lead to another place matter only after a file. -/
theorem Plain.advance_filter_leads_or (h : here.Plain) (ha : ∀ a ∈ around, a.Plain) :
    Overshoots here around parts ∨
      here.advance around parts = here.advance around (parts.filter fun p => leads p.toList) := by
  induction parts generalizing here around with
  | nil => exact .inr rfl
  | cons part rest ih =>
    cases hleads : leads part.toList with
    | false =>
      have hfilter : (part :: rest).filter (fun p => leads p.toList) =
          rest.filter fun p => leads p.toList := List.filter_cons_of_neg (by simp [hleads])
      exact overshoots_or_of_step (advance_of_not_leads hleads) (by rw [hfilter]) (ih h ha)
    | true =>
      have hfilter : (part :: rest).filter (fun p => leads p.toList) =
          part :: rest.filter fun p => leads p.toList := List.filter_cons_of_pos (by simp [hleads])
      by_cases hparent : part = ".."
      · -- Above the root there is the root itself.
        have hstep : ∀ ps, here.advance around (part :: ps) =
            (around.headD here).advance around.tail ps :=
          fun ps => by rw [advance_of_leads hleads, if_pos hparent]
        have houter : (around.headD here).Plain ∧ ∀ a ∈ around.tail, a.Plain := by
          cases around with
          | nil => exact ⟨h, List.forall_mem_nil _⟩
          | cons outer around => exact List.forall_mem_cons.mp ha
        exact overshoots_or_of_step (hstep rest) (by rw [hfilter, hstep]) (ih houter.1 houter.2)
      · by_cases hlong : maxName < part.utf8ByteSize
        · have hstep : ∀ ps, here.advance around (part :: ps) = .error .tooLong :=
            fun ps => by rw [advance_of_leads hleads, if_neg hparent, if_pos hlong]
          exact .inr (by rw [hfilter, hstep, hstep])
        · have hstep := advance_of_name hleads hparent hlong here around
          cases hfound : here.find? part with
          | none =>
            simp only [hfound] at hstep
            exact .inr (by rw [hfilter, hstep, hstep])
          | some e =>
            simp only [hfound] at hstep
            cases e with
            | link target => exact absurd hfound h.find?_ne_link
            | folder inside =>
              exact overshoots_or_of_step (hstep rest) (by rw [hfilter, hstep])
                (ih (h.of_find? hfound) (List.forall_mem_cons.mpr ⟨h, ha⟩))
            | file f => exact overshoots_or_of_file hleads hstep

/-- In a plain tree a path of which the last part leads to another place leads where those of its
parts lead that do so. -/
theorem Plain.advance_filter_leads_of_last (h : here.Plain) (ha : ∀ a ∈ around, a.Plain)
    (hend : ∀ last ∈ parts.getLast?, leads last.toList = true) :
    here.advance around parts = here.advance around (parts.filter fun p => leads p.toList) := by
  refine (h.advance_filter_leads_or ha).resolve_left ?_
  rintro ⟨-, -, last, hlast, hno⟩
  rw [hend last hlast] at hno
  contradiction

/-- Where a path that is followed to a directory of a plain tree leads does not depend on those of
its parts that do not lead to another place. -/
theorem Plain.advance_filter_leads (h : here.Plain) (ha : ∀ a ∈ around, a.Plain)
    {here' : Directory} {around' : List Directory} :
    here.advance around parts = .ok (.folder here' around') ↔
      here.advance around (parts.filter fun p => leads p.toList) =
        .ok (.folder here' around') := by
  have hor : Overshoots here around parts ∨ _ := h.advance_filter_leads_or ha
  rcases hor with ⟨⟨f, hfile⟩, hfault, -⟩ | heq
  · rw [hfile, hfault]
    simp
  · rw [heq]

/-- A path that is followed in a plain tree stops at a file or at a plain directory. -/
theorem Plain.advance {stop : Stop} (h : here.Plain) (ha : ∀ a ∈ around, a.Plain)
    (hstop : here.advance around parts = .ok stop) :
    (∃ f, stop = .file f) ∨ ∃ here' around', stop = .folder here' around' ∧ here'.Plain := by
  induction parts generalizing here around with
  | nil => exact .inr ⟨here, around, by cases hstop; rfl, h⟩
  | cons part rest ih =>
    cases hleads : leads part.toList with
    | false =>
      rw [advance_of_not_leads hleads] at hstop
      exact ih h ha hstop
    | true =>
      rw [advance_of_leads hleads] at hstop
      by_cases hparent : part = ".."
      · -- Above the root there is the root itself.
        rw [if_pos hparent] at hstop
        cases around with
        | nil => exact ih h ha hstop
        | cons outer around =>
          rw [List.forall_mem_cons] at ha
          exact ih ha.1 ha.2 hstop
      · rw [if_neg hparent] at hstop
        by_cases hlong : maxName < part.utf8ByteSize
        · simp [hlong] at hstop
        · rw [if_neg hlong] at hstop
          cases hfound : here.find? part with
          | none => simp [hfound] at hstop
          | some e =>
            rw [hfound] at hstop
            cases e with
            | file f =>
              dsimp only at hstop
              split_ifs at hstop
              exact .inl ⟨f, by cases hstop; rfl⟩
            | link target => exact absurd hfound h.find?_ne_link
            | folder inside =>
              exact ih (h.of_find? hfound) (List.forall_mem_cons.mpr ⟨h, ha⟩) hstop

/-- No links are followed in a plain tree. -/
theorem Plain.follow (h : here.Plain) (ha : ∀ a ∈ around, a.Plain) (root : Directory) (links : ℕ) :
    root.follow links here around parts = here.advance around parts := by
  cases hstop : here.advance around parts with
  | error e => cases links <;> simp [Directory.follow, hstop]
  | ok stop =>
    rcases h.advance ha hstop with ⟨f, rfl⟩ | ⟨here', around', rfl, -⟩
    · cases links <;> simp [Directory.follow, hstop]
    · cases links <;> simp [Directory.follow, hstop]

/-- Where a path leads to a directory, its first part leads to one, from which the others go on. -/
theorem exists_step_of_advance {part : String} {here' : Directory} {around' : List Directory}
    (h : here.advance around (part :: parts) = .ok (.folder here' around')) :
    ∃ (next : Directory) (outer : List Directory), ∀ ps : List String,
      here.advance around (part :: ps) = next.advance outer ps := by
  cases hleads : leads part.toList with
  | false => exact ⟨here, around, fun ps => advance_of_not_leads hleads⟩
  | true =>
    by_cases hparent : part = ".."
    · refine ⟨around.headD here, around.tail, fun ps => ?_⟩
      rw [advance_of_leads hleads, if_pos hparent]
    · by_cases hlong : maxName < part.utf8ByteSize
      · rw [advance_of_leads hleads, if_neg hparent, if_pos hlong] at h
        cases h
      · have hstep := advance_of_name hleads hparent hlong here around
        rw [hstep] at h
        cases hfound : here.find? part with
        | none => simp [hfound] at h
        | some e =>
          simp only [hfound] at hstep h
          cases e with
          | file f =>
            dsimp only at h
            split_ifs at h
            cases h
          | link target => cases h
          | folder inside => exact ⟨inside, here :: around, hstep⟩

/-- The parts of a path that leads to a directory can be followed by others. -/
theorem advance_append {here' : Directory} {around' : List Directory}
    (h : here.advance around names = .ok (.folder here' around')) (parts : List String) :
    here.advance around (names ++ parts) = here'.advance around' parts := by
  induction names generalizing here around with
  | nil =>
    cases h
    rfl
  | cons part rest ih =>
    obtain ⟨next, outer, hstep⟩ := exists_step_of_advance h
    rw [List.cons_append, hstep]
    rw [hstep] at h
    exact ih h

/-- If a path leads to a directory, then so does every path that it begins with. -/
theorem exists_of_advance_append {here' : Directory} {around' : List Directory}
    (h : here.advance around (names ++ parts) = .ok (.folder here' around')) :
    ∃ next outer, here.advance around names = .ok (.folder next outer) := by
  induction names generalizing here around with
  | nil => exact ⟨here, around, rfl⟩
  | cons part rest ih =>
    obtain ⟨next, outer, hstep⟩ := exists_step_of_advance h
    rw [List.cons_append, hstep] at h
    rw [hstep]
    exact ih h

/-! ## Entries of a tree -/

/-- Whether there is an entry at the end of some names, all but the last of which are those of
directories, each inside the one before. -/
def HasEntry (d : Directory) : List String → Entry → Prop
  | [], _ => False
  | [name], e => d.find? name = some e
  | name :: names, e => ∃ inside, d.find? name = some (.folder inside) ∧ inside.HasEntry names e

/-- Whether there is a file at the end of some names. -/
def HasFile (d : Directory) (names : List String) : Prop := ∃ f, d.HasEntry names (.file f)

/-- Whether some names lead to a directory. A directory itself is where no names lead to. -/
def HasFolder (d : Directory) (names : List String) (inside : Directory) : Prop :=
  names = [] ∧ inside = d ∨ d.HasEntry names (.folder inside)

variable {e : Entry}

/-- There is an entry with the first of the names on the way to one. -/
theorem HasEntry.find?_ne_none (h : d.HasEntry (n :: names) e) : d.find? n ≠ none := by
  cases names with
  | nil =>
    have hfind : d.find? n = some e := h
    simp [hfind]
  | cons m names =>
    obtain ⟨inside, hinside, -⟩ := h
    simp [hinside]

/-- There are names on the way to an entry. -/
theorem HasEntry.ne_nil (h : d.HasEntry names e) : names ≠ [] := by
  rintro rfl
  exact h

/-- There are names on the way to a file. -/
theorem HasFile.ne_nil (h : d.HasFile names) : names ≠ [] := by
  obtain ⟨f, hf⟩ := h
  exact hf.ne_nil

/-- There is no entry in an empty directory. -/
theorem not_hasEntry_empty {readable : Bool} : ¬(empty readable).HasEntry names e := by
  cases names with
  | nil => exact id
  | cons n names => exact fun h => h.find?_ne_none rfl

/-- Entries are found past one with another name. -/
theorem hasEntry_of_find?_eq {d' : Directory} (h : d.find? n = d'.find? n) :
    d.HasEntry (n :: names) e ↔ d'.HasEntry (n :: names) e := by
  cases names with
  | nil => simp only [HasEntry, h]
  | cons m names => simp only [HasEntry, h]

/-- The entries of a directory are its first one, if that is a file, and the others. -/
theorem hasEntry_file {f : File} (h : rest.find? name = none) :
    (file name f rest).HasEntry names e ↔
      (names = [name] ∧ e = .file f) ∨ rest.HasEntry names e := by
  cases names with
  | nil => simp [HasEntry]
  | cons n names =>
    by_cases hn : name = n
    · have hother : ¬rest.HasEntry (n :: names) e := fun hrest => hrest.find?_ne_none (hn ▸ h)
      rw [or_iff_left hother, ← hn]
      cases names with
      | nil => simp [HasEntry, find?, eq_comm]
      | cons m names => simp [HasEntry, find?]
    · have hfind : (file name f rest).find? n = rest.find? n := by rw [find?, if_neg hn]
      rw [hasEntry_of_find?_eq hfind]
      simp [Ne.symm hn]

/-- The entries of a directory are its first one and those in it, if that is a directory, and the
others. -/
theorem hasEntry_folder (h : rest.find? name = none) :
    (folder name inside rest).HasEntry names e ↔
      (names = [name] ∧ e = .folder inside) ∨
        (∃ below, names = name :: below ∧ inside.HasEntry below e) ∨ rest.HasEntry names e := by
  cases names with
  | nil => simp [HasEntry]
  | cons n names =>
    by_cases hn : name = n
    · have hother : ¬rest.HasEntry (n :: names) e := fun hrest => hrest.find?_ne_none (hn ▸ h)
      rw [or_iff_left hother, ← hn]
      cases names with
      | nil => simp [HasEntry, find?, eq_comm]
      | cons m names => simp [HasEntry, find?]
    · have hfind : (folder name inside rest).find? n = rest.find? n := by rw [find?, if_neg hn]
      rw [hasEntry_of_find?_eq hfind]
      simp [Ne.symm hn]

/-- The names on the way to an entry of a plain tree are proper. -/
theorem Plain.properName_of_hasEntry (h : d.Plain) (hentry : d.HasEntry names e) (hn : n ∈ names) :
    ProperName n := by
  induction names generalizing d with
  | nil => exact absurd hn List.not_mem_nil
  | cons m names ih =>
    rcases List.mem_cons.mp hn with rfl | hn
    · exact h.properName hentry.find?_ne_none
    · cases names with
      | nil => exact absurd hn List.not_mem_nil
      | cons k names =>
        obtain ⟨inside, hinside, hentry⟩ := hentry
        exact ih (h.of_find? hinside) hentry hn

/-- The names on the way to a directory in a plain tree are proper. -/
theorem Plain.properName_of_hasFolder (h : d.Plain) (hfolder : d.HasFolder names inside)
    (hn : n ∈ names) : ProperName n := by
  rcases hfolder with ⟨rfl, -⟩ | hentry
  · exact absurd hn List.not_mem_nil
  · exact h.properName_of_hasEntry hentry hn

/-- Names that may be those of entries lead to a file exactly if there is one at the end of them. -/
theorem advance_eq_file_iff {f : File} (hnames : ∀ n ∈ names, ProperName n) :
    here.advance around names = .ok (.file f) ↔ here.HasEntry names (.file f) := by
  induction names generalizing here around with
  | nil => exact iff_of_false (fun h => by cases h) id
  | cons name names ih =>
    rw [List.forall_mem_cons] at hnames
    have hname := hnames.1
    rw [advance_of_name hname.leads hname.ne_parent (Nat.not_lt.mpr hname.size_le)]
    cases hfound : here.find? name with
    | none =>
      exact iff_of_false (fun h => by cases h) fun h => h.find?_ne_none hfound
    | some e =>
      cases names with
      | nil => cases e <;> simp [HasEntry, hfound, Directory.advance]
      | cons m names =>
        cases e with
        | file f => simp [HasEntry, hfound]
        | link target => simp [HasEntry, hfound]
        | folder inside =>
          dsimp only
          rw [ih hnames.2]
          simp [HasEntry, hfound]

end Directory

namespace Disk

open BlackBox.Path (isAbsolute steps)

variable {d : Disk} {path : String} {here : Directory} {around : List Directory}

/-- The steps from the root of the file system along a path, which may begin at the current
directory. -/
def way (d : Disk) (path : String) : List String :=
  ((if isAbsolute path then [] else steps d.current.toList) ++ steps path.toList).map String.ofList

/-- The way along a path is that along its parts, those left out that do not lead to another
place. -/
theorem way_eq (d : Disk) (path : String) :
    d.way path = (Directory.pathParts
      (if isAbsolute path then path else d.current ++ "/" ++ path)).filter
        fun p => Path.leads p.toList := by
  have hleads : (fun p : String => Path.leads p.toList) ∘ String.ofList = Path.leads := by
    funext part
    rw [Function.comp_apply, String.toList_ofList]
  rw [way, Directory.pathParts, List.filter_map, hleads, ← steps]
  congr 1
  split_ifs
  · rfl
  · rw [String.toList_append, String.toList_append, List.append_assoc]
    exact (Path.steps_append _ _).symm

/-- In a plain tree a path leads to the directory where its steps lead, if it is a path at all. -/
theorem resolve_eq_folder_iff (h : d.root.Plain) :
    d.resolve path = .ok (.folder here around) ↔
      ('\x00' ∉ path.toList ∧ path ≠ "" ∧ path.utf8ByteSize ≤ Directory.maxPath) ∧
        d.root.advance [] (d.way path) = .ok (.folder here around) := by
  rw [way_eq, ← h.advance_filter_leads (List.forall_mem_nil _), resolve]
  generalize (if isAbsolute path then path else d.current ++ "/" ++ path) = full
  rw [h.follow (List.forall_mem_nil _)]
  by_cases hnul : '\x00' ∈ path.toList
  · simp [hnul]
  · by_cases hempty : path = ""
    · simp [hempty]
    · by_cases hlong : Directory.maxPath < path.utf8ByteSize
      · simp [hnul, hempty, hlong, Nat.not_le.mpr hlong]
      · simp [hnul, hempty, hlong, Nat.le_of_not_lt hlong]

/-- In a plain tree a path of which the last part leads to another place leads where its steps
lead. -/
theorem resolve_eq_advance (h : d.root.Plain) (hnul : '\x00' ∉ path.toList) (hne : path ≠ "")
    (hsize : path.utf8ByteSize ≤ Directory.maxPath)
    (hend : ∀ last ∈ (Directory.pathParts path).getLast?, Path.leads last.toList = true) :
    d.resolve path = d.root.advance [] (d.way path) := by
  have hlast : ∀ last ∈ (Directory.pathParts
      (if isAbsolute path then path else d.current ++ "/" ++ path)).getLast?,
      Path.leads last.toList = true := by
    split_ifs
    · exact hend
    · rwa [Directory.pathParts_append,
        List.getLast?_append_of_ne_nil _ (Directory.pathParts_ne_nil path)]
  rw [way_eq, ← h.advance_filter_leads_of_last (List.forall_mem_nil _) hlast,
    ← h.follow (List.forall_mem_nil _) d.root Directory.maxLinks, resolve]
  simp [hnul, hne, Nat.not_lt.mpr hsize]

/-- A path that is too long leads nowhere. -/
theorem file?_of_long (h : Directory.maxPath < path.utf8ByteSize) : d.file? path = none := by
  rw [file?, resolve]
  split_ifs
  · rfl
  · rfl
  · rfl

/-- A path with a null character in it leads nowhere. -/
theorem resolve_of_nul (h : '\x00' ∈ path.toList) : d.resolve path = .error .nulInPath := by
  rw [resolve, if_pos (by simpa using h)]

/-- The directory at a path is where the path leads to. -/
theorem folder?_eq_some_iff :
    d.folder? path = some here ↔ ∃ around, d.resolve path = .ok (.folder here around) := by
  rw [folder?]
  split
  · next here' around' h => simp [h]
  · next h => exact iff_of_false (fun h => by cases h) fun ⟨around, heq⟩ => h here around heq

/-- In a plain tree a path leads to a plain directory, if it leads to one. -/
theorem plain_of_folder? (h : d.root.Plain) (hpath : d.folder? path = some here) : here.Plain := by
  obtain ⟨around, hpath⟩ := folder?_eq_some_iff.mp hpath
  have hstop := ((resolve_eq_folder_iff h).mp hpath).2
  rcases h.advance (List.forall_mem_nil _) hstop with ⟨f, hf⟩ | ⟨here', around', heq, hhere⟩
  · cases hf
  · cases heq
    exact hhere

end Disk

end BlackBox
