import BlackBox.Proofs.Files.Anchor

/-!
# Displayed paths

A report shows a path from the current directory, if the path is relative or leads to a place inside
that directory, and as it is otherwise. The text of a path inside is its steps with single
separators between them, so nothing in it depends on how the path was written
(`toList_display_of_inside`). Followed from the current directory it has the components of the path
again; and as no path outside is shown by such a text, paths that are displayed alike denote the
same file (`display_locates`).
-/

namespace BlackBox.Path

variable {current path other base text : String} {s part : List Char} {ps : List (List Char)}

/-! ## Steps as a text -/

/-- A step of a path: a part that leads to another place, with no separator in it. -/
def IsStep (part : List Char) : Prop := leads part = true ∧ '/' ∉ part

/-- The steps of a path are such parts. -/
theorem isStep_of_mem_steps (h : part ∈ steps s) : IsStep part := by
  obtain ⟨hmem, hleads⟩ := List.mem_filter.mp h
  exact ⟨hleads, not_mem_of_mem_parts hmem⟩

/-- A text that is written with separators between some parts has these parts. -/
theorem parts_intercalate (hne : ps ≠ []) (h : ∀ p ∈ ps, '/' ∉ p) :
    parts (['/'].intercalate ps) = ps := by
  induction ps with
  | nil => contradiction
  | cons p ps ih =>
    have hp : '/' ∉ p := h p List.mem_cons_self
    cases ps with
    | nil => rw [List.intercalate_singleton, parts_of_not_mem hp]
    | cons q qs =>
      have hrest := ih (List.cons_ne_nil q qs) fun r hr => h r (List.mem_cons_of_mem p hr)
      rw [List.intercalate_cons_cons, List.append_assoc, List.singleton_append, parts_append,
        parts_of_not_mem hp, hrest, List.singleton_append]

/-- A text that is written with separators between some steps has these steps. -/
theorem steps_intercalate (h : ∀ p ∈ ps, IsStep p) : steps (['/'].intercalate ps) = ps := by
  by_cases hne : ps = []
  · rw [hne]
    rfl
  · rw [steps, parts_intercalate hne fun p hp => (h p hp).2]
    exact List.filter_eq_self.mpr fun p hp => (h p hp).1

/-- The text of the component that a part stands for is the part. -/
theorem text_of_ofPart? {c : Component} (h : Component.ofPart? part = some c) :
    c ≠ .current ∧ c.text.toList = part := by
  rw [Component.ofPart?] at h
  split_ifs at h with hdrop hparent
  · rw [← Option.some.inj h, hparent]
    exact ⟨Component.noConfusion, rfl⟩
  · rw [← Option.some.inj h]
    exact ⟨Component.noConfusion, String.toList_ofList⟩

/-- The components of steps are put together to a text with separators between the steps. -/
theorem toList_ofComponents (h : ∀ p ∈ ps, IsStep p) :
    (ofComponents (ps.filterMap Component.ofPart?)).toList = ['/'].intercalate ps := by
  have htexts : (((ps.filterMap Component.ofPart?).filter (· != .current)).map
      Component.text).map String.toList = ps := by
    induction ps with
    | nil => rfl
    | cons p ps ih =>
      obtain ⟨c, hc⟩ : ∃ c, Component.ofPart? p = some c := by
        rw [← Option.ne_none_iff_exists', ne_eq, ofPart?_eq_none_iff, Bool.not_eq_false]
        exact (h p List.mem_cons_self).1
      obtain ⟨hcurrent, htext⟩ := text_of_ofPart? hc
      have hkept : (c != .current) = true := bne_iff_ne.mpr hcurrent
      rw [List.filterMap_cons_some hc, List.filter_cons, if_pos hkept, List.map_cons, List.map_cons,
        htext, ih fun q hq => h q (List.mem_cons_of_mem p hq)]
  rw [ofComponents, String.toList_intercalate, htexts]
  rfl

/-! ## Clean texts -/

/-- A text that shows a relative path without anything that makes no difference: it does not begin
at the root, no part of it is empty or a point, and it does not end in a separator. The text may be
empty. -/
structure Clean (text : String) : Prop where
  /-- It does not begin with a separator. -/
  relative : isAbsolute text = false
  /-- There is no point and nothing empty between separators. -/
  parts_lead : text = "" ∨ ∀ part ∈ parts text.toList, part ≠ [] ∧ part ≠ ['.']
  /-- It does not end in a separator. -/
  last : text.toList.getLast? ≠ some '/'

/-- A text with no empty part neither begins nor ends with a separator. -/
theorem ends_of_parts_ne_nil (h : ∀ part ∈ parts s, part ≠ []) :
    s.head? ≠ some '/' ∧ s.getLast? ≠ some '/' := by
  constructor
  · intro hhead
    obtain ⟨rest, rfl⟩ := List.head?_eq_some_iff.mp hhead
    have hempty : [] ∈ parts ([] ++ '/' :: rest) := by
      rw [parts_append]
      exact List.mem_cons_self
    exact h [] hempty rfl
  · intro hlast
    obtain ⟨front, rfl⟩ := List.getLast?_eq_some_iff.mp hlast
    have hempty : [] ∈ parts (front ++ '/' :: []) := by
      rw [parts_append]
      exact List.mem_append_right _ List.mem_cons_self
    exact h [] hempty rfl

/-- A text with separators between steps is clean. -/
theorem clean_of_steps (h : ∀ p ∈ ps, IsStep p) (htext : text.toList = ['/'].intercalate ps) :
    Clean text := by
  by_cases hne : ps = []
  · subst hne
    obtain rfl : text = "" := String.toList_eq_nil_iff.mp htext
    exact ⟨rfl, .inl rfl, by decide⟩
  · have hparts : ∀ part ∈ parts text.toList, part ≠ [] ∧ part ≠ ['.'] := by
      rw [htext, parts_intercalate hne fun p hp => (h p hp).2]
      intro part hpart
      have hleads := (h part hpart).1
      rwa [leads, decide_eq_true_eq] at hleads
    obtain ⟨hhead, hlast⟩ := ends_of_parts_ne_nil fun part hpart => (hparts part hpart).1
    exact ⟨by rw [isAbsolute, beq_eq_false_iff_ne]; exact hhead, .inr hparts, hlast⟩

/-! ## Paths inside a directory -/

/-- A path leads to a place inside the current directory: it is relative, or it begins with the
components of the directory and does not go up right after them. -/
def Inside (current path : String) : Prop :=
  isAbsolute path = false ∨
    ∃ rest, components path = components current ++ rest ∧ rest.head? ≠ some .parent

/-- What follows some components in a list is there exactly if the list begins with them. -/
theorem below?_eq_some_iff {base cs rest : List Component} :
    below? base cs = some rest ↔ cs = base ++ rest := by
  constructor
  · intro h
    induction base generalizing cs with
    | nil => exact Option.some.inj h
    | cons b base ih =>
      cases cs with
      | nil => cases h
      | cons c cs =>
        rw [below?] at h
        split_ifs at h with hbc
        rw [hbc, ih h, List.cons_append]
  · rintro rfl
    exact below?_append base rest

/-- An absolute path has the root and the components of its steps. -/
theorem components_eq_of_isAbsolute (h : isAbsolute path = true) :
    components path = .root :: (steps path.toList).filterMap Component.ofPart? := by
  rw [components_of_isAbsolute h, located_eq, if_pos h]
  rfl

/-- A relative path that is followed from an absolute one has its components and then those of its
own steps. -/
theorem components_join (hbase : isAbsolute base = true) (hpath : isAbsolute path = false) :
    components (join base path) =
      components base ++ (steps path.toList).filterMap Component.ofPart? := by
  have hne : base ≠ "" := by
    rintro rfl
    cases hbase
  have habs : isAbsolute (join base path) = true := (isAbsolute_join hne hpath).trans hbase
  rw [components_eq_of_isAbsolute habs, components_eq_of_isAbsolute hbase, steps_join hne hpath,
    List.filterMap_append, List.cons_append]

/-- An absolute path is not followed from anywhere. -/
theorem join_of_isAbsolute (h : isAbsolute path = true) : join base path = path := by
  rw [join, h, Bool.true_or, if_pos rfl]

/-- A path inside the current directory is displayed by steps below the directory, with separators
between them, and these are the steps by which the path follows the directory. -/
theorem toList_display_of_inside (hcurrent : isAbsolute current = true)
    (h : Inside current path) : ∃ ps, (∀ p ∈ ps, IsStep p) ∧
      (display current path).toList = ['/'].intercalate ps ∧
      components (join current path) = components current ++ ps.filterMap Component.ofPart? := by
  cases habs : isAbsolute path with
  | false =>
    have hsteps : ∀ p ∈ steps path.toList, IsStep p := fun p => isStep_of_mem_steps
    refine ⟨steps path.toList, hsteps, ?_, components_join hcurrent habs⟩
    have hlocated : located path = (steps path.toList).filterMap Component.ofPart? := by
      rw [located_eq, habs]
      rfl
    rw [display, habs, if_neg (by decide), ofComponents_components, hlocated,
      toList_ofComponents hsteps]
  | true =>
    obtain ⟨rest, hrest, hfirst⟩ := h.resolve_left (by rw [habs]; decide)
    -- The components after those of the directory are those of the last steps of the path.
    have hsplit : (steps path.toList).filterMap Component.ofPart? =
        (steps current.toList).filterMap Component.ofPart? ++ rest := by
      rw [components_eq_of_isAbsolute habs, components_eq_of_isAbsolute hcurrent,
        List.cons_append] at hrest
      exact List.tail_eq_of_cons_eq hrest
    obtain ⟨front, ps, hps, -, rfl⟩ := List.filterMap_eq_append_iff.mp hsplit
    have hsteps : ∀ p ∈ ps, IsStep p := fun p hp => by
      refine isStep_of_mem_steps (s := path.toList) ?_
      rw [hps]
      exact List.mem_append_right front hp
    have hshown : display current path = ofComponents (ps.filterMap Component.ofPart?) := by
      rw [display, if_pos habs, below?_eq_some_iff.mpr hrest]
      cases hcs : ps.filterMap Component.ofPart? with
      | nil => rfl
      | cons c cs =>
        rw [hcs] at hfirst
        cases c with
        | parent => exact absurd rfl hfirst
        | _ => rfl
    refine ⟨ps, hsteps, ?_, ?_⟩
    · rw [hshown, toList_ofComponents hsteps]
    · rw [join_of_isAbsolute habs, hrest]

/-- A path inside the current directory is displayed by a clean text that has the components of the
path, when it is followed from the directory. -/
theorem clean_display (hcurrent : isAbsolute current = true) (h : Inside current path) :
    Clean (display current path) ∧
      components (join current (display current path)) = components (join current path) := by
  obtain ⟨ps, hsteps, htext, hcomponents⟩ := toList_display_of_inside hcurrent h
  have hclean := clean_of_steps hsteps htext
  refine ⟨hclean, ?_⟩
  calc components (join current (display current path))
    _ = components current ++
        (steps (display current path).toList).filterMap Component.ofPart? :=
      components_join hcurrent hclean.relative
    _ = components current ++ ps.filterMap Component.ofPart? := by
      rw [htext, steps_intercalate hsteps]
    _ = components (join current path) := hcomponents.symm

/-- A path that does not lead to a place inside the current directory is displayed as it is. -/
theorem display_of_not_inside (h : ¬Inside current path) :
    isAbsolute path = true ∧ display current path = path := by
  rw [Inside, not_or, Bool.not_eq_false] at h
  obtain ⟨habs, hbelow⟩ := h
  refine ⟨habs, ?_⟩
  rw [display, if_pos habs]
  cases hrest : below? (components current) (components path) with
  | none => rfl
  | some rest =>
    -- The path begins with the components of the directory, so that it must go up after them.
    cases hfirst : rest.head? with
    | none => exact absurd ⟨rest, below?_eq_some_iff.mp hrest, by simp [hfirst]⟩ hbelow
    | some c =>
      obtain ⟨cs, rfl⟩ := List.head?_eq_some_iff.mp hfirst
      cases c with
      | parent => rfl
      | _ => exact absurd ⟨_, below?_eq_some_iff.mp hrest, by simp⟩ hbelow

/-- What a path is displayed by tells whether it leads to a place inside the current directory. -/
theorem inside_iff (hcurrent : isAbsolute current = true) :
    Inside current path ↔ isAbsolute (display current path) = false := by
  constructor
  · intro h
    exact (clean_display hcurrent h).1.relative
  · intro h
    by_contra hout
    obtain ⟨habs, hsame⟩ := display_of_not_inside hout
    rw [hsame, habs] at h
    cases h

/-- Seen from an absolute directory, a path that is relative or leads to a place inside is displayed
by a clean text that has the components of the path again when it is followed from the directory,
and any other path is displayed as it is. So two paths that are displayed alike have the same
components when they are followed from the directory, whichever of them are relative or absolute. -/
theorem display_locates (current path : String) (hcurrent : isAbsolute current = true) :
    (Inside current path → Clean (display current path) ∧
      components (join current (display current path)) = components (join current path)) ∧
    (¬Inside current path → isAbsolute path = true ∧ display current path = path) ∧
    (isAbsolute path = true → join current path = path) ∧
    (∀ other, display current path = display current other →
      components (join current path) = components (join current other)) := by
  refine ⟨clean_display hcurrent, display_of_not_inside, join_of_isAbsolute, fun other halike => ?_⟩
  -- The text tells which of the two ways it was made in, so both paths are shown in the same way.
  have hboth : Inside current path ↔ Inside current other := by
    rw [inside_iff hcurrent, halike, ← inside_iff hcurrent]
  by_cases hpath : Inside current path
  · have hother := hboth.mp hpath
    calc components (join current path)
      _ = components (join current (display current path)) := (clean_display hcurrent hpath).2.symm
      _ = components (join current (display current other)) := by rw [halike]
      _ = components (join current other) := (clean_display hcurrent hother).2
  · have hother := mt hboth.mpr hpath
    have hsame : path = other := by
      rw [← (display_of_not_inside hpath).2, halike, (display_of_not_inside hother).2]
    rw [hsame]

/-- From `/w`, the absolute path `/w/.//..a/../b/` and the relative path `./..a//../b` are displayed
alike and have the same components; `/w2/b` and `/w/../b` are outside and displayed as they are. -/
theorem display_locates_sample :
    isAbsolute "/w" = true ∧ Inside "/w" "/w/.//..a/../b/" ∧
      display "/w" "/w/.//..a/../b/" = "..a/../b" ∧ Clean (display "/w" "/w/.//..a/../b/") ∧
      components (join "/w" "/w/.//..a/../b/") = components (join "/w" "./..a//../b") ∧
      ¬Inside "/w" "/w2/b" ∧ display "/w" "/w2/b" = "/w2/b" ∧
      ¬Inside "/w" "/w/../b" ∧ display "/w" "/w/../b" = "/w/../b" := by
  have hinside : Inside "/w" "/w/.//..a/../b/" := by
    rw [inside_iff (by decide)]
    decide
  have hbeside : ¬Inside "/w" "/w2/b" := by
    rw [inside_iff (by decide)]
    decide
  have habove : ¬Inside "/w" "/w/../b" := by
    rw [inside_iff (by decide)]
    decide
  obtain ⟨hclean, -, -, halike⟩ := display_locates "/w" "/w/.//..a/../b/" (by decide)
  exact ⟨by decide, hinside, by decide, (hclean hinside).1, halike "./..a//../b" (by decide),
    hbeside, ((display_locates "/w" "/w2/b" (by decide)).2.1 hbeside).2,
    habove, ((display_locates "/w" "/w/../b" (by decide)).2.1 habove).2⟩

end BlackBox.Path
