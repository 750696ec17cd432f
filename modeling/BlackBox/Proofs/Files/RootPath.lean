import Mathlib.Data.String.Basic
import BlackBox.Proofs.Files.Parts

/-!
# The path of a root

Test files are called by a path of the root that they are below. It is put together from the parts
of the root, one after the other, and has the same steps (`entered_of_rootPath?`); its text is that
of the root with some characters left out (`sublist_of_rootPath?`). The one kind of root without
such a path begins with points and a repeated separator (`rootPath?_eq_none_iff`).
-/

namespace BlackBox.Discovery

open BlackBox.Path (isAbsolute steps parts leads)

variable {root base path next part : String} {ps : List String}

/-! ## The paths of entries -/

/-- The path of an entry has the steps of the directory and that of the entry. -/
theorem steps_child (hpath : path ≠ "") (hpart : '/' ∉ part.toList) :
    steps (child path part).toList = steps path.toList ++ steps part.toList := by
  rw [child]
  split_ifs with hpoint
  · rw [hpoint]
    rfl
  · exact Path.steps_join hpath (Path.isAbsolute_of_not_mem hpart)

/-- The path of an entry begins where that of the directory does. -/
theorem isAbsolute_child (hpath : path ≠ "") (hpart : '/' ∉ part.toList) :
    isAbsolute (child path part) = isAbsolute path := by
  rw [child]
  split_ifs with hpoint
  · rw [hpoint, Path.isAbsolute_of_not_mem hpart]
    rfl
  · exact Path.isAbsolute_join hpath (Path.isAbsolute_of_not_mem hpart)

/-- The path of an entry is empty only if an entry of the current directory has no name. -/
theorem child_eq_empty_iff (hpath : path ≠ "") (hpart : '/' ∉ part.toList) :
    child path part = "" ↔ path = "." ∧ part = "" := by
  rw [child]
  split_ifs with hpoint
  · simp [hpoint]
  · simp [hpoint, Path.join_ne_empty hpath (Path.isAbsolute_of_not_mem hpart)]

/-- The path of an entry is a point only if an entry of the current directory is called so. -/
theorem child_eq_point_iff (hpath : path ≠ "") (hpart : '/' ∉ part.toList) :
    child path part = "." ↔ path = "." ∧ part = "." := by
  rw [child]
  split_ifs with hpoint
  · simp [hpoint]
  · have hsep : '/' ∈ (Path.join path part).toList := by
      rcases Path.toList_join hpath (Path.isAbsolute_of_not_mem hpart) with ⟨htext, hlast⟩ | htext
      · rw [htext]
        exact List.mem_append_left _ (List.mem_of_getLast? hlast)
      · rw [htext]
        exact List.mem_append_right _ List.mem_cons_self
    have hjoin : Path.join path part ≠ "." := by
      intro h
      rw [h] at hsep
      exact absurd hsep (by decide)
    simp [hpoint, hjoin]

/-- The text of the path of an entry is taken from that of the directory, a separator and the name,
in this order. -/
theorem child_sublist (hpath : path ≠ "") (hpart : '/' ∉ part.toList) :
    (child path part).toList.Sublist (path.toList ++ '/' :: part.toList) := by
  rw [child]
  split_ifs with hpoint
  · exact (List.sublist_cons_self _ _).trans (List.sublist_append_right _ _)
  · rcases Path.toList_join hpath (Path.isAbsolute_of_not_mem hpart) with ⟨htext, -⟩ | htext
    · rw [htext]
      exact (List.Sublist.refl _).append (List.sublist_cons_self _ _)
    · rw [htext]

/-! ## Entering parts -/

/-- The path after one more part of a root, if there is one. -/
def next? (path part : String) : Option String :=
  let next := child path part
  if next.isEmpty then none else some next

/-- The path by which the directory of a root is called, that after all its parts. There is none if
nothing but points come before a repeated separator. -/
def rootPath? (root : String) : Option String := (rootParts root).foldlM next? (start root)

/-- A root is followed from a path that is not empty. -/
theorem start_ne_empty (root : String) : start root ≠ "" := by
  unfold start
  split_ifs <;> decide

/-- A part is entered unless that leaves no text. -/
theorem next?_eq_some_iff : next? path part = some next ↔ child path part = next ∧ next ≠ "" := by
  rw [next?]
  split_ifs with hempty
  · rw [String.isEmpty_iff] at hempty
    simp only [false_iff, not_and, not_not]
    exact fun h => h ▸ hempty
  · rw [String.isEmpty_iff] at hempty
    rw [Option.some.injEq]
    exact ⟨fun h => ⟨h, h ▸ hempty⟩, And.left⟩

/-- What is known of the path after some parts: it begins where the path before them does, has
their steps in addition, and its text is taken from that path and the parts. -/
structure Entered (path : String) (ps : List String) (base : String) : Prop where
  /-- The path is not empty. -/
  ne_empty : base ≠ ""
  /-- The steps of the parts are taken. -/
  steps_eq : steps base.toList = steps path.toList ++ ps.flatMap fun p => steps p.toList
  /-- The path begins where the one before does. -/
  isAbsolute_eq : isAbsolute base = isAbsolute path
  /-- No characters are added but a separator before each part. -/
  sublist : base.toList.Sublist (path.toList ++ ps.flatMap fun p => '/' :: p.toList)

/-- The path after some parts is entered part by part. -/
theorem entered_of_foldlM (hpath : path ≠ "") (hps : ∀ p ∈ ps, '/' ∉ p.toList)
    (h : ps.foldlM next? path = some base) : Entered path ps base := by
  induction ps generalizing path with
  | nil =>
    obtain rfl : path = base := Option.some.inj h
    exact ⟨hpath, (List.append_nil _).symm, rfl, List.sublist_append_left _ _⟩
  | cons part ps ih =>
    rw [List.forall_mem_cons] at hps
    rw [List.foldlM_cons, Option.bind_eq_bind, Option.bind_eq_some_iff] at h
    obtain ⟨next, hnext, h⟩ := h
    obtain ⟨rfl, hne⟩ := next?_eq_some_iff.mp hnext
    have hrest := ih hne hps.2 h
    refine ⟨hrest.ne_empty, ?_, ?_, ?_⟩
    · rw [hrest.steps_eq, steps_child hpath hps.1, List.append_assoc, List.flatMap_cons]
    · rw [hrest.isAbsolute_eq, isAbsolute_child hpath hps.1]
    · refine hrest.sublist.trans ?_
      rw [List.flatMap_cons, ← List.append_assoc]
      exact (child_sublist hpath hps.1).append (List.Sublist.refl _)

/-- No path is longer than that of an entry with a name. -/
theorem size_le_child (hpath : path ≠ "") (hpart : '/' ∉ part.toList) (hne : child path part ≠ "") :
    path.utf8ByteSize ≤ (child path part).utf8ByteSize := by
  unfold child at hne ⊢
  split_ifs at hne ⊢ with hpoint
  · -- A point takes one byte, and there is one in every name.
    rw [hpoint]
    exact Nat.one_le_iff_ne_zero.mpr (mt String.utf8ByteSize_eq_zero_iff.mp hne)
  · apply Path.size_le_of_sublist
    rcases Path.toList_join hpath (Path.isAbsolute_of_not_mem hpart) with ⟨htext, -⟩ | htext
    · rw [htext]
      exact List.sublist_append_left _ _
    · rw [htext]
      exact List.sublist_append_left _ _

/-- No path is longer than the one after some parts. -/
theorem size_le_of_foldlM (hpath : path ≠ "") (hps : ∀ p ∈ ps, '/' ∉ p.toList)
    (h : ps.foldlM next? path = some base) : path.utf8ByteSize ≤ base.utf8ByteSize := by
  induction ps generalizing path with
  | nil =>
    obtain rfl : path = base := Option.some.inj h
    exact Nat.le_refl _
  | cons part ps ih =>
    rw [List.forall_mem_cons] at hps
    rw [List.foldlM_cons, Option.bind_eq_bind, Option.bind_eq_some_iff] at h
    obtain ⟨next, hnext, h⟩ := h
    obtain ⟨rfl, hne⟩ := next?_eq_some_iff.mp hnext
    exact (size_le_child hpath hps.1 hne).trans (ih hne hps.2 h)

/-- Past a name every part is entered. -/
theorem foldlM_next_ne_none (hpath : path ≠ "") (hpoint : path ≠ ".")
    (hps : ∀ p ∈ ps, '/' ∉ p.toList) : ps.foldlM next? path ≠ none := by
  induction ps generalizing path with
  | nil => simp
  | cons part ps ih =>
    rw [List.forall_mem_cons] at hps
    have hne : child path part ≠ "" := fun h => hpoint ((child_eq_empty_iff hpath hps.1).mp h).1
    have hne' : child path part ≠ "." := fun h => hpoint ((child_eq_point_iff hpath hps.1).mp h).1
    rw [List.foldlM_cons, next?_eq_some_iff.mpr ⟨rfl, hne⟩]
    exact ih hne hne' hps.2

/-- From the current directory the parts are entered unless an empty one comes after points only. -/
theorem foldlM_next_point_eq_none_iff (hps : ∀ p ∈ ps, '/' ∉ p.toList) :
    ps.foldlM next? "." = none ↔ ∃ k rest, ps = List.replicate k "." ++ "" :: rest := by
  induction ps with
  | nil => simp
  | cons part ps ih =>
    rw [List.forall_mem_cons] at hps
    by_cases hempty : part = ""
    · subst hempty
      exact ⟨fun _ => ⟨0, ps, rfl⟩, fun _ => rfl⟩
    · -- In the current directory an entry is called by its name alone.
      have hnext : next? "." part = some part := next?_eq_some_iff.mpr ⟨rfl, hempty⟩
      rw [List.foldlM_cons, hnext]
      show ps.foldlM next? part = none ↔ _
      by_cases hpoint : part = "."
      · subst hpoint
        rw [ih hps.2]
        constructor
        · rintro ⟨k, rest, rfl⟩
          exact ⟨k + 1, rest, rfl⟩
        · rintro ⟨k, rest, hrest⟩
          cases k with
          | zero => simp at hrest
          | succ k => exact ⟨k, rest, (List.cons.inj hrest).2⟩
      · refine iff_of_false (foldlM_next_ne_none hempty hpoint hps.2) ?_
        rintro ⟨k, rest, hrest⟩
        cases k with
        | zero => exact hempty (List.cons.inj hrest).1
        | succ k => exact hpoint (List.cons.inj hrest).1

/-! ## The parts of a root -/

/-- An absolute path has an empty part before the separator that it begins with. -/
theorem pathParts_of_isAbsolute (h : isAbsolute path = true) :
    Directory.pathParts path = "" :: (Directory.pathParts path).tail := by
  obtain ⟨rest, hrest⟩ : ∃ rest, path.toList = '/' :: rest := by
    rw [isAbsolute, beq_iff_eq, List.head?_eq_some_iff] at h
    exact h
  rw [Directory.pathParts, hrest, Path.parts_cons, Path.attachPart.eq_def, if_pos rfl]
  rfl

/-- The parts of a root are those of its text, without the empty one before the separator that an
absolute path begins with, and without one after a separator at the end. -/
theorem pathParts_eq (root : String) : ∃ last,
    (last = [] ∧ (rootParts root).getLast? ≠ some "" ∨ last = [""]) ∧
      Directory.pathParts root =
        (if isAbsolute root then [""] else []) ++ rootParts root ++ last := by
  obtain ⟨inner, hinner, hparts⟩ : ∃ inner,
      (if isAbsolute root then (Directory.pathParts root).tail else Directory.pathParts root) =
        inner ∧ Directory.pathParts root = (if isAbsolute root then [""] else []) ++ inner := by
    refine ⟨_, rfl, ?_⟩
    split_ifs with habs
    · exact pathParts_of_isAbsolute habs
    · rfl
  have hroot : rootParts root = if inner.getLast? == some "" then inner.dropLast else inner := by
    rw [← hinner]
    rfl
  rw [hroot]
  by_cases hlast : inner.getLast? = some ""
  · rw [if_pos (beq_iff_eq.mpr hlast)]
    refine ⟨[""], .inr rfl, ?_⟩
    rw [hparts, List.append_assoc, List.dropLast_append_getLast? "" hlast]
  · rw [if_neg (mt beq_iff_eq.mp hlast)]
    exact ⟨[], .inl ⟨rfl, hlast⟩, by rw [hparts, List.append_nil]⟩

/-- There is no separator in a part of a path. -/
theorem not_mem_of_mem_pathParts (h : part ∈ Directory.pathParts path) : '/' ∉ part.toList := by
  obtain ⟨p, hp, rfl⟩ := List.mem_map.mp h
  rw [String.toList_ofList]
  exact Path.not_mem_of_mem_parts hp

/-- There is no separator in a part of a root. -/
theorem not_mem_of_mem_rootParts (h : part ∈ rootParts root) : '/' ∉ part.toList := by
  obtain ⟨last, -, hparts⟩ := pathParts_eq root
  have hmem : part ∈ Directory.pathParts root := by
    rw [hparts]
    exact List.mem_append_left _ (List.mem_append_right _ h)
  exact not_mem_of_mem_pathParts hmem

/-- The steps along a path are those of its parts. -/
theorem flatMap_steps_pathParts (path : String) :
    ((Directory.pathParts path).flatMap fun p => steps p.toList) = steps path.toList := by
  have hsteps : ∀ qs : List (List Char), (∀ q ∈ qs, '/' ∉ q) →
      qs.flatMap steps = qs.filter leads := by
    intro qs hqs
    induction qs with
    | nil => rfl
    | cons q qs ih =>
      rw [List.forall_mem_cons] at hqs
      rw [List.flatMap_cons, ih hqs.2, Path.steps_of_not_mem hqs.1, ← List.filter_append,
        List.singleton_append]
  rw [Directory.pathParts, List.flatMap_map]
  simp only [String.toList_ofList]
  exact hsteps _ fun q hq => Path.not_mem_of_mem_parts hq

/-- The steps along a root are those of its parts. -/
theorem flatMap_steps_rootParts (root : String) :
    ((rootParts root).flatMap fun p => steps p.toList) = steps root.toList := by
  obtain ⟨last, hlast, hparts⟩ := pathParts_eq root
  have hfirst : ((if isAbsolute root then [""] else []).flatMap fun p : String =>
      steps p.toList) = [] := by
    split_ifs <;> rfl
  have hlast : (last.flatMap fun p : String => steps p.toList) = [] := by
    rcases hlast with ⟨rfl, -⟩ | rfl <;> rfl
  rw [← flatMap_steps_pathParts root, hparts, List.flatMap_append, List.flatMap_append, hfirst,
    hlast, List.nil_append, List.append_nil]

/-- The parts of a text are those of the path with the text. -/
theorem parts_eq_map_pathParts (path : String) :
    parts path.toList = (Directory.pathParts path).map String.toList := by
  rw [Directory.pathParts, List.map_map]
  exact (List.map_id'' (fun _ => String.toList_ofList) _).symm

/-- A path is its parts with a separator before each of them but the first. -/
theorem toList_of_pathParts (h : Directory.pathParts path = part :: ps) :
    path.toList = part.toList ++ ps.flatMap fun p => '/' :: p.toList := by
  obtain ⟨q, qs, hqs⟩ := List.exists_cons_of_ne_nil (Path.parts_ne_nil path.toList)
  rw [Directory.pathParts, hqs, List.map_cons] at h
  obtain ⟨rfl, rfl⟩ := List.cons.inj h
  rw [Path.text_of_parts hqs, List.flatMap_map, String.toList_ofList, List.flatMap_def]
  simp only [String.toList_ofList]

/-! ## The path of a root -/

/-- A root begins with points and a repeated separator. -/
def Stray (root : String) : Prop :=
  ∃ k rest, root.toList = (List.replicate (k + 1) ['.', '/']).flatten ++ '/' :: rest

/-- A root has the same steps as the path by which it is called. -/
theorem entered_of_rootPath? (h : rootPath? root = some base) :
    base ≠ "" ∧ steps base.toList = steps root.toList ∧ isAbsolute base = isAbsolute root := by
  have hentered := entered_of_foldlM (start_ne_empty root)
    (fun p hp => not_mem_of_mem_rootParts hp) h
  refine ⟨hentered.ne_empty, ?_, ?_⟩
  · rw [hentered.steps_eq, flatMap_steps_rootParts, start]
    split_ifs <;> rfl
  · rw [hentered.isAbsolute_eq, start]
    split_ifs with habs
    · rw [habs]; rfl
    · rw [Bool.not_eq_true] at habs
      rw [habs]; rfl

/-- A root has the same components as the path by which it is called, but for points. -/
theorem located_of_rootPath? (h : rootPath? root = some base) :
    Path.located base = Path.located root := by
  obtain ⟨-, hsteps, habs⟩ := entered_of_rootPath? h
  rw [Path.located_eq, Path.located_eq, hsteps, habs]

/-- The text of the path by which a root is called is taken from that of the root. -/
theorem sublist_of_rootPath? (hroot : root ≠ "") (h : rootPath? root = some base) :
    base.toList.Sublist root.toList := by
  obtain ⟨last, hlast, hparts⟩ := pathParts_eq root
  rw [rootPath?, start] at h
  cases hps : rootParts root with
  | nil =>
    -- Without parts a root is a separator, as it is not empty.
    rw [hps] at h hparts
    split_ifs at h hparts with habs
    · obtain rfl : "/" = base := Option.some.inj h
      rw [isAbsolute, beq_iff_eq] at habs
      exact List.singleton_sublist.mpr (List.mem_of_head? habs)
    · rcases hlast with ⟨rfl, -⟩ | rfl
      · exact absurd (congrArg List.length hparts)
          (by simp [Directory.pathParts, Path.parts_ne_nil])
      · exact absurd (toList_of_pathParts hparts) (by simpa using hroot)
  | cons part ps =>
    have hmem : ∀ p ∈ part :: ps, '/' ∉ p.toList := fun p hp =>
      not_mem_of_mem_rootParts (hps ▸ hp)
    rw [List.forall_mem_cons] at hmem
    rw [hps] at hparts
    rw [hps, List.foldlM_cons, Option.bind_eq_bind, Option.bind_eq_some_iff] at h
    obtain ⟨next, hnext, h⟩ := h
    obtain ⟨rfl, hne⟩ := next?_eq_some_iff.mp hnext
    -- The first part follows the separator of an absolute path, and nothing in another one.
    refine (entered_of_foldlM hne hmem.2 h).sublist.trans ?_
    split_ifs at hparts ⊢ with habs
    · have hchild : (child "/" part).toList = '/' :: part.toList := by
        simp [child, Path.join, Path.isAbsolute_of_not_mem hmem.1]
      have htext : Directory.pathParts root = "" :: (part :: ps ++ last) := hparts
      rw [hchild, toList_of_pathParts htext, List.flatMap_append]
      exact List.sublist_append_left _ _
    · have htext : Directory.pathParts root = part :: (ps ++ last) := hparts
      rw [toList_of_pathParts htext, List.flatMap_append, ← List.append_assoc]
      exact List.sublist_append_left _ _

/-- A text that begins with points, each alone between separators, and a separator after the last
one is known by its parts. -/
theorem exists_of_parts_eq_points {s : List Char} {k : ℕ} {q : List Char} {qs : List (List Char)}
    (h : parts s = List.replicate k ['.'] ++ [] :: q :: qs) :
    ∃ rest, s = (List.replicate k ['.', '/']).flatten ++ '/' :: rest := by
  induction k generalizing s with
  | zero =>
    obtain ⟨t, ht, -⟩ := Path.exists_of_parts_eq_cons_cons h
    exact ⟨t, ht⟩
  | succ k ih =>
    have hrest : ∃ r rs, List.replicate k ['.'] ++ [] :: q :: qs = r :: rs :=
      List.exists_cons_of_ne_nil (by simp)
    obtain ⟨r, rs, hrs⟩ := hrest
    rw [List.replicate_succ, List.cons_append, hrs] at h
    obtain ⟨t, ht, hparts⟩ := Path.exists_of_parts_eq_cons_cons h
    obtain ⟨rest, hrest⟩ := ih (hparts.trans hrs.symm)
    exact ⟨rest, by rw [ht, hrest]; rfl⟩

/-- Points, each alone between separators, are the first parts of a text that begins with them. -/
theorem parts_points (k : ℕ) (s : List Char) :
    parts ((List.replicate k ['.', '/']).flatten ++ s) = List.replicate k ['.'] ++ parts s := by
  induction k with
  | zero => rfl
  | succ k ih =>
    have hpoint : parts ['.'] = [['.']] := rfl
    rw [List.replicate_succ, List.flatten_cons, List.append_assoc]
    show parts (['.'] ++ '/' :: ((List.replicate k ['.', '/']).flatten ++ s)) = _
    rw [Path.parts_append, ih, hpoint]
    rfl

/-- A root that begins with points is relative. -/
theorem Stray.not_isAbsolute (h : Stray root) : ¬ isAbsolute root := by
  obtain ⟨k, rest, hrest⟩ := h
  rw [isAbsolute, hrest, List.replicate_succ]
  simp

/-- A relative root of which the first part after points is empty begins with points and a repeated
separator. -/
theorem stray_of_rootParts_eq (habs : ¬ isAbsolute root) {k : ℕ} {rest : List String}
    (h : rootParts root = List.replicate k "." ++ "" :: rest) : Stray root := by
  obtain ⟨last, hlast, hparts⟩ := pathParts_eq root
  rw [if_neg habs, List.nil_append] at hparts
  -- The empty part is not the last one: it would have been left out.
  obtain ⟨q, qs, hqs⟩ : ∃ q qs, rest ++ last = q :: qs := by
    refine List.exists_cons_of_ne_nil fun hnil => ?_
    obtain ⟨rfl, rfl⟩ := List.append_eq_nil_iff.mp hnil
    rcases hlast with ⟨-, hlast⟩ | hlast
    · exact hlast (by rw [h]; exact List.getLast?_concat)
    · exact absurd hlast (List.cons_ne_nil _ _).symm
  have htext : parts root.toList =
      List.replicate k ['.'] ++ [] :: q.toList :: qs.map String.toList := by
    rw [parts_eq_map_pathParts, hparts, h, List.append_assoc, List.cons_append, hqs,
      List.map_append, List.map_replicate]
    rfl
  obtain ⟨t, ht⟩ := exists_of_parts_eq_points htext
  cases k with
  | zero =>
    rw [isAbsolute, ht] at habs
    exact absurd rfl habs
  | succ k => exact ⟨k, t, ht⟩

/-- After the points that such a root begins with, its first part is empty. -/
theorem Stray.rootParts_eq (h : Stray root) :
    ∃ k rest, rootParts root = List.replicate k "." ++ "" :: rest := by
  obtain ⟨last, hlast, hparts⟩ := pathParts_eq root
  rw [if_neg h.not_isAbsolute, List.nil_append] at hparts
  obtain ⟨k, rest, hrest⟩ := h
  have htext : Directory.pathParts root =
      List.replicate (k + 1) "." ++ "" :: (parts rest).map String.ofList := by
    rw [Directory.pathParts, hrest, parts_points, Path.parts_cons, Path.attachPart.eq_def,
      if_pos rfl, List.map_append, List.map_replicate]
    rfl
  rcases hlast with ⟨rfl, -⟩ | rfl
  · exact ⟨k + 1, _, by rw [← htext, hparts, List.append_nil]⟩
  · have hne : (parts rest).map String.ofList ≠ [] :=
      mt List.map_eq_nil_iff.mp (Path.parts_ne_nil rest)
    refine ⟨k + 1, ((parts rest).map String.ofList).dropLast, ?_⟩
    calc rootParts root
      _ = (Directory.pathParts root).dropLast := by rw [hparts, List.dropLast_concat]
      _ = _ := by rw [htext, List.dropLast_append_cons, List.dropLast_cons_of_ne_nil hne]

/-- A root is called by no path if it begins with points and a repeated separator. -/
theorem rootPath?_eq_none_iff : rootPath? root = none ↔ Stray root := by
  have hmem : ∀ p ∈ rootParts root, '/' ∉ p.toList := fun p hp => not_mem_of_mem_rootParts hp
  rw [rootPath?, start]
  split_ifs with habs
  · refine iff_of_false (foldlM_next_ne_none (by decide) (by decide) hmem) ?_
    exact fun h => h.not_isAbsolute habs
  · rw [foldlM_next_point_eq_none_iff hmem]
    constructor
    · rintro ⟨k, rest, hrest⟩
      exact stray_of_rootParts_eq habs hrest
    · exact Stray.rootParts_eq

end BlackBox.Discovery
