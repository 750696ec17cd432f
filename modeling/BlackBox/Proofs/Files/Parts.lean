import Mathlib.Data.List.Basic
import Mathlib.Data.String.Basic
import BlackBox.Proofs.Files.Selection

/-!
# The parts of a path

The text of a path is its parts with separators between them (`text_of_parts`). What a path denotes
depends on those parts only that are neither empty nor a point: its `steps`. The components of a
path are read off its steps (`located_eq`), and a path that is followed from another one has the
steps of both (`steps_join`).
-/

namespace BlackBox.Path

variable {s t part : List Char} {base path name : String}

/-- A path is no shorter than what is left of it when characters are left out. -/
theorem size_le_of_sublist (h : name.toList.Sublist path.toList) :
    name.utf8ByteSize ≤ path.utf8ByteSize := by
  rw [← String.ofList_toList (s := name), ← String.ofList_toList (s := path),
    String.utf8ByteSize_ofList, String.utf8ByteSize_ofList]
  exact String.utf8Len_le_of_sublist h

/-! ## Parts -/

/-- Every text has a part. -/
theorem parts_ne_nil (s : List Char) : parts s ≠ [] := by
  induction s with
  | nil => exact List.cons_ne_nil _ _
  | cons c s ih =>
    obtain ⟨p, ps, hps⟩ := List.exists_cons_of_ne_nil ih
    rw [parts_cons, hps, attachPart]
    split_ifs
    · exact List.cons_ne_nil _ _
    · exact List.cons_ne_nil _ _

/-- A text with no separator is its only part. -/
theorem parts_of_not_mem (h : '/' ∉ s) : parts s = [s] := by
  induction s with
  | nil => rfl
  | cons c s ih =>
    rw [List.mem_cons, not_or] at h
    rw [parts_cons, ih h.2, attachPart, if_neg (Ne.symm h.1)]

/-- The parts of a text are those before a separator and those after it. -/
theorem parts_append (s t : List Char) : parts (s ++ '/' :: t) = parts s ++ parts t := by
  induction s with
  | nil =>
    rw [List.nil_append, parts_cons, attachPart.eq_def, if_pos rfl]
    rfl
  | cons c s ih =>
    obtain ⟨p, ps, hps⟩ := List.exists_cons_of_ne_nil (parts_ne_nil s)
    rw [List.cons_append, parts_cons, ih, parts_cons, hps, List.cons_append, attachPart, attachPart]
    split_ifs
    · rfl
    · rfl

/-- A text is its first part and the others with a separator before each of them. -/
theorem text_of_parts {p : List Char} {ps : List (List Char)} (h : parts s = p :: ps) :
    s = p ++ (ps.map ('/' :: ·)).flatten := by
  induction s generalizing p ps with
  | nil =>
    have hnil : [[]] = p :: ps := h
    injection hnil with hp hps
    rw [← hp, ← hps]
    rfl
  | cons c s ih =>
    obtain ⟨q, qs, hqs⟩ := List.exists_cons_of_ne_nil (parts_ne_nil s)
    have hs := ih hqs
    rw [parts_cons, hqs, attachPart] at h
    split_ifs at h with hc
    · injection h with hp hps
      rw [← hp, ← hps, hc]
      simpa using hs
    · injection h with hp hps
      rw [← hp, ← hps, List.cons_append]
      exact congrArg (c :: ·) hs

/-- A text with a first and a second part is the first one, a separator, and a text with the other
parts. -/
theorem exists_of_parts_eq_cons_cons {p q : List Char} {qs : List (List Char)}
    (h : parts s = p :: q :: qs) : ∃ t, s = p ++ '/' :: t ∧ parts t = q :: qs := by
  induction s generalizing p with
  | nil => simp [parts] at h
  | cons c s ih =>
    obtain ⟨r, rs, hrs⟩ := List.exists_cons_of_ne_nil (parts_ne_nil s)
    rw [parts_cons, hrs, attachPart] at h
    split_ifs at h with hc
    · injection h with hp hrest
      exact ⟨s, by rw [← hp, hc, List.nil_append], hrs.trans hrest⟩
    · injection h with hp hrest
      obtain ⟨t, ht, hparts⟩ := ih (hrs.trans (congrArg (r :: ·) hrest))
      exact ⟨t, by rw [← hp, ht, List.cons_append], hparts⟩

/-- The characters of a text other than separators are those of its parts. -/
theorem mem_iff_mem_parts {c : Char} (hc : c ≠ '/') : c ∈ s ↔ ∃ part ∈ parts s, c ∈ part := by
  induction s with
  | nil => simp [parts]
  | cons a s ih =>
    obtain ⟨q, qs, hqs⟩ := List.exists_cons_of_ne_nil (parts_ne_nil s)
    rw [List.mem_cons, ih, parts_cons, hqs, attachPart]
    split_ifs with ha
    · simp [ha, hc]
    · simp [or_assoc]

/-- There is no separator in a part. -/
theorem not_mem_of_mem_parts (h : part ∈ parts s) : '/' ∉ part := by
  induction s generalizing part with
  | nil =>
    rw [List.mem_singleton.mp h]
    exact List.not_mem_nil
  | cons c s ih =>
    obtain ⟨q, qs, hqs⟩ := List.exists_cons_of_ne_nil (parts_ne_nil s)
    rw [parts_cons, hqs, attachPart] at h
    split_ifs at h with hc
    · rcases List.mem_cons.mp h with rfl | h
      · exact List.not_mem_nil
      · exact ih (hqs ▸ h)
    · rcases List.mem_cons.mp h with rfl | h
      · rw [List.mem_cons, not_or]
        exact ⟨Ne.symm hc, ih (hqs ▸ List.mem_cons_self)⟩
      · exact ih (hqs ▸ List.mem_cons_of_mem q h)

/-! ## Steps -/

/-- Whether a part of a path leads to another place: it is neither empty nor a point. -/
def leads (part : List Char) : Bool := part ≠ [] ∧ part ≠ ['.']

/-- The parts of a path that lead to another place. -/
def steps (s : List Char) : List (List Char) := (parts s).filter leads

/-- The steps of a text are those before a separator and those after it. -/
theorem steps_append (s t : List Char) : steps (s ++ '/' :: t) = steps s ++ steps t := by
  rw [steps, parts_append, List.filter_append]
  rfl

/-- A text with no separator is one step or none. -/
theorem steps_of_not_mem (h : '/' ∉ s) : steps s = [s].filter leads := by
  rw [steps, parts_of_not_mem h]

/-- The characters of a text other than separators and points are those of its steps. -/
theorem mem_iff_mem_steps {c : Char} (hc : c ≠ '/') (hpoint : c ≠ '.') :
    c ∈ s ↔ ∃ part ∈ steps s, c ∈ part := by
  have hleads : ∀ part, c ∈ part → leads part = true := by
    intro part hpart
    rw [leads, decide_eq_true_eq]
    refine ⟨List.ne_nil_of_mem hpart, ?_⟩
    rintro rfl
    exact hpoint (List.mem_singleton.mp hpart)
  rw [mem_iff_mem_parts hc]
  constructor
  · rintro ⟨part, hpart, hmem⟩
    exact ⟨part, List.mem_filter.mpr ⟨hpart, hleads part hmem⟩, hmem⟩
  · rintro ⟨part, hpart, hmem⟩
    exact ⟨part, List.mem_of_mem_filter hpart, hmem⟩

/-- A text with no separator is no absolute path. -/
theorem isAbsolute_of_not_mem (h : '/' ∉ name.toList) : isAbsolute name = false := by
  rw [isAbsolute, beq_eq_false_iff_ne]
  exact fun hhead => h (List.mem_of_head? hhead)

/-- The text of a path that is followed from another one: a separator is put between the two unless
there is one. -/
theorem toList_join_eq (hbase : base ≠ "") (hname : isAbsolute name = false) :
    (join base name).toList = base.toList ++
      ((if base.toList.getLast? = some '/' then [] else ['/']) ++ name.toList) := by
  have hempty : base.isEmpty = false := by
    rw [Bool.eq_false_iff, ne_eq, String.isEmpty_iff]
    exact hbase
  rw [join, hname, hempty, if_neg (by decide)]
  by_cases hlast : base.toList.getLast? = some '/'
  · rw [if_pos (by simp [hlast]), if_pos hlast, String.toList_append]
    rfl
  · rw [if_neg (by simp [hlast]), if_neg hlast, String.toList_append, String.toList_append,
      List.append_assoc]
    rfl

/-- There is a separator between a path and the one that it is followed from, and only one. -/
theorem toList_join (hbase : base ≠ "") (hname : isAbsolute name = false) :
    (join base name).toList = base.toList ++ name.toList ∧ base.toList.getLast? = some '/' ∨
      (join base name).toList = base.toList ++ '/' :: name.toList := by
  rw [toList_join_eq hbase hname]
  by_cases hlast : base.toList.getLast? = some '/'
  · exact .inl ⟨by rw [if_pos hlast]; rfl, hlast⟩
  · exact .inr (by rw [if_neg hlast]; rfl)

/-- A text that stands at the end of another one does so when a path is followed from both. -/
theorem suffix_join {full : String} (hbase : base ≠ "") (hname : isAbsolute name = false)
    (h : base.toList <:+ full.toList) : (join base name).toList <:+ (join full name).toList := by
  have hne : base.toList ≠ [] := mt String.toList_eq_nil_iff.mp hbase
  obtain ⟨front, hfront⟩ := h
  have hfull : full ≠ "" := by
    rintro rfl
    exact hne (List.append_eq_nil_iff.mp hfront).2
  -- The two texts end alike, so that a separator is added to both of them or to none.
  have hlast : full.toList.getLast? = base.toList.getLast? := by
    rw [← hfront, List.getLast?_append_of_ne_nil _ hne]
  rw [toList_join_eq hbase hname, toList_join_eq hfull hname, hlast, ← hfront, List.append_assoc]
  exact List.suffix_append front _

/-- A path that is followed from another one has the steps of both. -/
theorem steps_join (hbase : base ≠ "") (hname : isAbsolute name = false) :
    steps (join base name).toList = steps base.toList ++ steps name.toList := by
  rcases toList_join hbase hname with ⟨htext, hlast⟩ | htext
  · -- The separator at the end of `base` is the one between the two.
    obtain ⟨front, hfront⟩ := List.getLast?_eq_some_iff.mp hlast
    have hback : steps base.toList = steps front := by
      rw [hfront, steps_append]
      exact List.append_nil _
    rw [htext, hback, hfront, List.append_assoc, List.singleton_append, steps_append]
  · rw [htext, steps_append]

/-- A path that is followed from another one begins where that one does. -/
theorem isAbsolute_join (hbase : base ≠ "") (hname : isAbsolute name = false) :
    isAbsolute (join base name) = isAbsolute base := by
  have hne : base.toList ≠ [] := fun h => hbase (String.toList_eq_nil_iff.mp h)
  obtain ⟨c, cs, hcs⟩ := List.exists_cons_of_ne_nil hne
  rw [isAbsolute, isAbsolute]
  rcases toList_join hbase hname with ⟨htext, -⟩ | htext
  · rw [htext, hcs]
    rfl
  · rw [htext, hcs]
    rfl

/-- A path that is followed from another one is not empty. -/
theorem join_ne_empty (hbase : base ≠ "") (hname : isAbsolute name = false) :
    join base name ≠ "" := by
  intro h
  have hne : base.toList ≠ [] := fun hnil => hbase (String.toList_eq_nil_iff.mp hnil)
  have hnil := String.toList_eq_nil_iff.mpr h
  rcases toList_join hbase hname with ⟨htext, -⟩ | htext
  · rw [htext] at hnil
    exact hne (List.append_eq_nil_iff.mp hnil).1
  · rw [htext] at hnil
    exact hne (List.append_eq_nil_iff.mp hnil).1

/-- The parts of the path of an entry are those of the directory, but for the empty one after a
separator at its end, and the name. -/
theorem parts_join (hbase : base ≠ "") (hname : '/' ∉ name.toList) :
    ∃ ps ≠ [], parts (join base name).toList = ps ++ [name.toList] ∧
      (parts base.toList = ps ∨ parts base.toList = ps ++ [[]]) := by
  rcases toList_join hbase (isAbsolute_of_not_mem hname) with ⟨htext, hlast⟩ | htext
  · -- The separator at the end of `base` is the one between the two.
    obtain ⟨front, hfront⟩ := List.getLast?_eq_some_iff.mp hlast
    refine ⟨parts front, parts_ne_nil front, ?_, .inr ?_⟩
    · rw [htext, hfront, List.append_assoc, List.singleton_append, parts_append,
        parts_of_not_mem hname]
    · rw [hfront, parts_append]
      rfl
  · refine ⟨parts base.toList, parts_ne_nil _, ?_, .inl rfl⟩
    rw [htext, parts_append, parts_of_not_mem hname]

/-! ## Components -/

/-- The components of a path without the point that a relative path may begin with. -/
def located (path : String) : List Component := (components path).filter (· ≠ .current)

/-- A part stands for a component if it leads to another place. -/
theorem ofPart?_eq_none_iff : Component.ofPart? part = none ↔ leads part = false := by
  rw [Component.ofPart?, leads]
  split_ifs with hdrop hparent
  · simp only [true_iff, decide_eq_false_iff_not, not_and_or, not_not]
    exact hdrop
  · simp only [false_iff, Bool.not_eq_false, decide_eq_true_eq]
    exact not_or.mp hdrop
  · simp only [false_iff, Bool.not_eq_false, decide_eq_true_eq]
    exact not_or.mp hdrop

/-- No part stands for the current directory. -/
theorem ofPart?_ne_current : Component.ofPart? part ≠ some .current := by
  rw [Component.ofPart?]
  split_ifs <;> simp

/-- The components of some parts are those of the steps among them. -/
theorem filterMap_leads (ps : List (List Char)) :
    ps.filterMap Component.ofPart? = (ps.filter leads).filterMap Component.ofPart? := by
  induction ps with
  | nil => rfl
  | cons p ps ih =>
    cases hp : leads p with
    | false =>
      rw [List.filterMap_cons_none (ofPart?_eq_none_iff.mpr hp),
        List.filter_cons_of_neg (by simp [hp]), ih]
    | true =>
      rw [List.filter_cons_of_pos hp, List.filterMap_cons, List.filterMap_cons, ih]

/-- The components of a path are read off its steps. -/
theorem located_eq (path : String) : located path =
    (if isAbsolute path then [.root] else []) ++
      (steps path.toList).filterMap Component.ofPart? := by
  have hinner : ((parts path.toList).filterMap Component.ofPart?).filter (· ≠ .current) =
      (steps path.toList).filterMap Component.ofPart? := by
    rw [filterMap_leads, ← steps]
    refine List.filter_eq_self.mpr fun c hc => ?_
    obtain ⟨p, -, hp⟩ := List.mem_filterMap.mp hc
    rw [decide_eq_true_eq]
    rintro rfl
    exact ofPart?_ne_current hp
  rw [located, components]
  split_ifs
  · rw [List.filter_cons_of_pos (by decide), hinner]
    rfl
  · rw [List.filter_cons_of_neg (by decide), hinner]
    rfl
  · rw [hinner]
    rfl

open Component in
/-- Components that compare as equal are the same. -/
instance : Std.LawfulEqCmp Component.compare where
  compare_self {a} := by
    cases a with
    | name s => exact Std.ReflCmp.compare_self
    | _ => rfl
  eq_of_compare {a b} h := by
    have hboth : (compareOn rank a b).then (compareOn label a b) = .eq := by
      rw [← h, compare_eq, compareLex]
    obtain ⟨hrank, hlabel⟩ := Ordering.then_eq_eq.mp hboth
    have hkind : a.rank = b.rank := Std.LawfulEqCmp.eq_of_compare hrank
    have htext : a.label = b.label := Std.LawfulEqCmp.eq_of_compare hlabel
    cases a <;> cases b <;> simp_all [rank, label]

/-- Paths that neither comes before have the same components. -/
theorem components_of_compare_eq {a b : String} (h : compare a b = .eq) :
    components a = components b :=
  Std.LawfulEqCmp.eq_of_compare h

end BlackBox.Path
