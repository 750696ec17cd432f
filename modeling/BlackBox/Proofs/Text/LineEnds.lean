import Mathlib.Data.List.Forall2
import BlackBox.Proofs.Text.Lines

/-!
# Line ends and indentation

Normalising a text takes out the carriage returns that stand directly before newlines
(`normalize_eq_withoutReturns`). It can be done line by line (`normalize_line`), and part by part
unless a line end is divided between two parts, which then keeps its carriage return
(`normalize_append`, `normalize_append_of_seam`).

To pad a text is to put spaces before each of its lines and to change nothing else. Indenting a text
is normalising and padding it (`indent_eq_pad`), and the two commute (`normalize_pad`); so whatever
a text goes through by being indented again and again, what remains of it is found by normalising it
as often.
-/

namespace BlackBox.Text

variable {line rest s t p q : List Char} {level : ℕ} {c : Char}

/-! ## Normalised texts -/

/-- The characters of a text with its line ends normalised. -/
theorem toList_normalizeNewlines (text : String) :
    (normalizeNewlines text).toList = normalize text.toList := String.toList_ofList

/-- Nothing is dropped from a text without carriage returns. -/
theorem normalize_of_return_not_mem (h : '\r' ∉ s) : normalize s = s := by
  induction s with
  | nil => rfl
  | cons c s ih =>
    rw [List.mem_cons, not_or] at h
    have hkept : ¬(c = '\r' ∧ s.head? = some '\n') := fun hc => h.1 hc.1.symm
    rw [normalize_cons, if_neg hkept, ih h.2]

/-- Nothing is dropped from a line that has no newline. -/
theorem normalize_of_last (h : '\n' ∉ line) : normalize line = line := by
  induction line with
  | nil => rfl
  | cons c line ih =>
    rw [List.mem_cons, not_or] at h
    have hkept : ¬(c = '\r' ∧ line.head? = some '\n') := fun hc => h.2 (List.mem_of_head? hc.2)
    rw [normalize_cons, if_neg hkept, ih h.2]

/-- A newline is kept. -/
theorem normalize_newline_cons (s : List Char) : normalize ('\n' :: s) = '\n' :: normalize s := by
  have hkept : ¬('\n' = '\r' ∧ s.head? = some '\n') := fun hc => absurd hc.1 (by decide)
  rw [normalize_cons, if_neg hkept]

/-- Of a carriage return and a newline the newline is kept. -/
theorem normalize_return_newline_cons (s : List Char) :
    normalize ('\r' :: '\n' :: s) = '\n' :: normalize s := by
  rw [normalize_cons, if_pos ⟨rfl, rfl⟩, normalize_newline_cons]

/-! ## Texts one after the other -/

/-- One text ends in a carriage return and the next one begins with a newline, so that a line end is
divided between the two. -/
def Seam (s t : List Char) : Prop := s.getLast? = some '\r' ∧ t.head? = some '\n'

/-- It can be decided whether there is a line end at a seam. -/
instance : Decidable (Seam s t) := inferInstanceAs (Decidable (_ ∧ _))

/-- The parts of a text are normalised apart, unless a carriage return and its newline are in
different parts. -/
theorem normalize_append (h : ¬ Seam s t) : normalize (s ++ t) = normalize s ++ normalize t := by
  induction s with
  | nil => rfl
  | cons c s ih =>
    rw [List.cons_append, normalize_cons, normalize_cons]
    cases s with
    | nil =>
      -- The last character of the first part is kept, as there is nothing after it there.
      have hkept : ¬(c = '\r' ∧ t.head? = some '\n') := fun hc => h ⟨by rw [hc.1]; rfl, hc.2⟩
      rw [List.nil_append, if_neg hkept, if_neg (by simp)]
      rfl
    | cons d s =>
      have hrest := ih fun hd => h ⟨by rw [List.getLast?_cons_cons]; exact hd.1, hd.2⟩
      have hhead : (d :: s ++ t).head? = (d :: s).head? := rfl
      rw [hhead, hrest]
      split_ifs
      · rfl
      · rfl

/-- A text that ends a line is normalised apart from what follows it. -/
theorem normalize_append_of_newline (h : s.getLast? = some '\n') :
    normalize (s ++ t) = normalize s ++ normalize t :=
  normalize_append fun hseam => absurd (h.symm.trans hseam.1) (by decide)

/-- A text that begins with a carriage return is normalised apart from what stands before it. -/
theorem normalize_append_return_cons (s t : List Char) :
    normalize (s ++ '\r' :: t) = normalize s ++ normalize ('\r' :: t) :=
  normalize_append fun hseam => absurd hseam.2 (by simp)

/-- Where a line end is divided between two texts, its carriage return is kept if the two are
normalised apart and dropped if they are normalised as one text. Nothing else is different. -/
theorem normalize_append_of_seam (h : Seam s t) :
    ∃ front rest, normalize s = front ++ ['\r'] ∧ normalize t = '\n' :: rest ∧
      normalize (s ++ t) = front ++ '\n' :: rest := by
  obtain ⟨s, rfl⟩ := List.getLast?_eq_some_iff.mp h.1
  obtain ⟨t, rfl⟩ := List.head?_eq_some_iff.mp h.2
  have hreturn : normalize ['\r'] = ['\r'] := normalize_of_last (by decide)
  refine ⟨normalize s, normalize t, ?_, normalize_newline_cons t, ?_⟩
  · rw [normalize_append_return_cons, hreturn]
  · -- The seam is put before the carriage return, so that it and the newline stay together.
    rw [List.append_assoc, List.singleton_append, normalize_append_return_cons,
      normalize_return_newline_cons]

/-- Two texts are normalised to the same apart and as one text exactly if no line end is divided
between them. -/
theorem normalize_append_eq_iff : normalize (s ++ t) = normalize s ++ normalize t ↔ ¬ Seam s t := by
  refine ⟨fun heq hseam => ?_, normalize_append⟩
  obtain ⟨front, rest, hs, ht, hboth⟩ := normalize_append_of_seam hseam
  have hlength := congrArg List.length heq
  simp only [hs, ht, hboth, List.length_append, List.length_cons, List.length_nil] at hlength
  omega

/-! ## First lines and last characters -/

/-- The first line of a text loses a carriage return before its newline. -/
theorem normalize_line (h : '\n' ∉ line) :
    normalize (line ++ '\n' :: rest) = dropEnd '\r' line ++ '\n' :: normalize rest := by
  by_cases hlast : line.getLast? = some '\r'
  · obtain ⟨front, rfl⟩ := List.getLast?_eq_some_iff.mp hlast
    have hfront : '\n' ∉ front := fun hmem => h (List.mem_append_left _ hmem)
    have hdrop : dropEnd '\r' (front ++ ['\r']) = front := by
      rw [dropEnd, if_pos hlast, List.dropLast_concat]
    rw [List.append_assoc, List.singleton_append, normalize_append_return_cons,
      normalize_of_last hfront, normalize_return_newline_cons, hdrop]
  · have hdrop : dropEnd '\r' line = line := if_neg hlast
    rw [normalize_append fun hc => hlast hc.1, normalize_of_last h, normalize_newline_cons, hdrop]

/-- A text stays empty or not when it is normalised. -/
theorem normalize_eq_nil_iff : normalize s = [] ↔ s = [] := by
  induction s using line_induction with
  | last line hline => rw [normalize_of_last hline]
  | more line rest hline _ => simp [normalize_line hline]

/-- The last character of a text is kept. -/
theorem getLast?_normalize (s : List Char) : (normalize s).getLast? = s.getLast? := by
  induction s using line_induction with
  | last line hline => rw [normalize_of_last hline]
  | more line rest hline ih => simp only [normalize_line hline, getLast?_line, normalize_eq_nil_iff, ih]

/-- The pieces of a text are normalised one by one. -/
theorem pieces_normalize (s : List Char) : pieces (normalize s) = (pieces s).map normalize := by
  induction s using piece_induction with
  | nil => rfl
  | last line hline hne =>
    rw [normalize_of_last hline, pieces_of_last hline hne, List.map_singleton,
      normalize_of_last hline]
  | more line rest hline ih =>
    rw [normalize_line hline, pieces_line (newline_not_mem_dropEnd hline), pieces_line hline, ih,
      List.map_cons, normalize_line hline, normalize_nil]

/-- Newlines are neither dropped nor added. -/
theorem count_normalize (s : List Char) : (normalize s).count '\n' = s.count '\n' := by
  induction s with
  | nil => rfl
  | cons c s ih =>
    rw [normalize_cons]
    split_ifs with hc
    · rw [ih, hc.1, List.count_cons_of_ne (by decide)]
    · rw [List.count_cons, List.count_cons, ih]

/-- No character but a carriage return is lost. -/
theorem mem_normalize (h : c ∈ s) (hc : c ≠ '\r') : c ∈ normalize s := by
  induction s with
  | nil => exact absurd h List.not_mem_nil
  | cons d s ih =>
    rw [normalize_cons]
    split_ifs with hd
    · exact ih ((List.mem_cons.mp h).resolve_left fun heq => hc (heq.trans hd.1))
    · rcases List.mem_cons.mp h with rfl | h
      · exact List.mem_cons_self
      · exact List.mem_cons_of_mem d (ih h)

/-! ## Carriage returns before newlines -/

/-- A carriage return is before a newline at the beginning of a text exactly if the text begins with
the two. -/
theorem return_newline_prefix_iff :
    ['\r', '\n'] <+: c :: s ↔ c = '\r' ∧ s.head? = some '\n' := by
  rw [List.cons_prefix_cons, eq_comm]
  refine and_congr_right fun _ => ?_
  cases s with
  | nil => simp
  | cons d s => simp [List.cons_prefix_cons, eq_comm]

/-- A carriage return stands at a place of a text, and a newline at the next place. -/
def ReturnAt (s : List Char) (i : ℕ) : Prop := s[i]? = some '\r' ∧ s[i + 1]? = some '\n'

/-- It can be decided whether a place is that of a carriage return before a newline. -/
instance {i : ℕ} : Decidable (ReturnAt s i) := inferInstanceAs (Decidable (_ ∧ _))

/-- At the first place there is a carriage return before a newline if it is the first character and
the rest begins with a newline. -/
theorem returnAt_cons_zero : ReturnAt (c :: s) 0 ↔ c = '\r' ∧ s.head? = some '\n' := by
  simp [ReturnAt, List.head?_eq_getElem?]

/-- The other places are those of the rest. -/
theorem returnAt_cons_succ {i : ℕ} : ReturnAt (c :: s) (i + 1) ↔ ReturnAt s i := by
  simp [ReturnAt]

/-- The text without the characters at the places where a carriage return stands before a
newline. -/
def withoutReturns (s : List Char) : List Char :=
  (s.zipIdx.filter fun p => ¬ ReturnAt s p.2).map Prod.fst

/-- The first character is left out if it is a carriage return before a newline. -/
theorem withoutReturns_cons (c : Char) (s : List Char) : withoutReturns (c :: s) =
    if c = '\r' ∧ s.head? = some '\n' then withoutReturns s else c :: withoutReturns s := by
  -- Each place of the rest is one further than it is in the rest alone.
  have hrest : (((s.zipIdx 1).filter fun p => ¬ ReturnAt (c :: s) p.2).map Prod.fst) =
      withoutReturns s := by
    rw [withoutReturns, List.zipIdx_succ, List.filter_map, List.map_map]
    simp only [Function.comp_def, returnAt_cons_succ]
  rw [withoutReturns, List.zipIdx_cons, List.filter_cons]
  simp only [returnAt_cons_zero, decide_eq_true_eq, Nat.zero_add]
  split_ifs
  · exact hrest
  · rw [List.map_cons, hrest]

/-- Exactly the carriage returns that stand directly before newlines are dropped. -/
theorem normalize_eq_withoutReturns (s : List Char) : normalize s = withoutReturns s := by
  induction s with
  | nil => rfl
  | cons c s ih => rw [normalize_cons, withoutReturns_cons, ih]

/-- The text in which each carriage return and newline is replaced by a newline, from left to
right. -/
def replaced : List Char → List Char
  | [] => []
  | '\r' :: '\n' :: s => '\n' :: replaced s
  | c :: s => c :: replaced s

/-- Normalising a text from its end is replacing its line ends from its beginning. -/
theorem normalize_eq_replaced (s : List Char) : normalize s = replaced s := by
  fun_induction replaced s with
  | case1 => rfl
  | case2 s ih => rw [normalize_return_newline_cons, ih]
  | case3 c s hother ih =>
    have hkept : ¬(c = '\r' ∧ s.head? = some '\n') := by
      rintro ⟨rfl, hs⟩
      obtain ⟨t, rfl⟩ := List.head?_eq_some_iff.mp hs
      exact hother t rfl rfl
    rw [normalize_cons, if_neg hkept, ih]

/-- What remains of a text is left of it when carriage returns are taken out. -/
theorem normalize_sublist (s : List Char) : (normalize s).Sublist s := by
  induction s with
  | nil => exact .slnil
  | cons c s ih =>
    rw [normalize_cons]
    split_ifs
    · exact ih.cons c
    · exact ih.cons_cons c

/-- Nothing is dropped exactly if no carriage return stands before a newline. -/
theorem normalize_eq_self_iff : normalize s = s ↔ ¬ ['\r', '\n'] <:+: s := by
  induction s with
  | nil => simp
  | cons c s ih =>
    rw [normalize_cons, List.infix_cons_iff, return_newline_prefix_iff, not_or, ← ih]
    split_ifs with hc
    · -- With one character less the text is not what it was.
      have hlength := (normalize_sublist s).length_le
      have hne : normalize s ≠ c :: s := by
        intro h
        rw [h, List.length_cons] at hlength
        omega
      exact iff_of_false hne fun hnot => hnot.1 hc
    · simp [hc]

/-- A text has the line ends that it is normalised to exactly if no carriage return stands before a
newline. -/
theorem normalizeNewlines_eq_self_iff {text : String} :
    normalizeNewlines text = text ↔ ¬ "\r\n".toList <:+: text.toList := by
  rw [← String.toList_inj, toList_normalizeNewlines]
  exact normalize_eq_self_iff

/-- A normalised text begins with a newline if the text does, or if the text begins with a carriage
return and a newline. -/
theorem head?_normalize_eq_newline_iff :
    (normalize s).head? = some '\n' ↔ s.head? = some '\n' ∨ ['\r', '\n'] <+: s := by
  induction s with
  | nil => simp
  | cons c s ih =>
    rw [normalize_cons, return_newline_prefix_iff]
    split_ifs with hc
    · simp [ih, hc]
    · simp [hc]

/-- A carriage return is before a newline in a normalised text exactly if two of them are in the
text. -/
theorem return_newline_infix_normalize_iff :
    ['\r', '\n'] <:+: normalize s ↔ ['\r', '\r', '\n'] <:+: s := by
  induction s with
  | nil => simp
  | cons c s ih =>
    have htwo : ['\r', '\r', '\n'] <:+: c :: s ↔
        c = '\r' ∧ ['\r', '\n'] <+: s ∨ ['\r', '\r', '\n'] <:+: s := by
      rw [List.infix_cons_iff, List.cons_prefix_cons, eq_comm]
    rw [normalize_cons, htwo]
    split_ifs with hc
    · -- What is dropped is followed by the newline itself.
      have hnot : ¬ ['\r', '\n'] <+: s := by
        rintro ⟨t, rfl⟩
        exact absurd hc.2 (by simp)
      simp [ih, hnot]
    · rw [List.infix_cons_iff, return_newline_prefix_iff, head?_normalize_eq_newline_iff, ih]
      by_cases hreturn : c = '\r'
      · have hhead : s.head? ≠ some '\n' := fun h => hc ⟨hreturn, h⟩
        simp [hhead]
      · simp [hreturn]

/-! ## Whole lines -/

/-- The pieces of a text that ends in a newline are its lines with their newlines. -/
theorem exists_line_of_mem_pieces (h : s.getLast? = some '\n') (hp : p ∈ pieces s) :
    ∃ line, '\n' ∉ line ∧ p = line ++ ['\n'] := by
  induction s using line_induction with
  | last line hline => exact absurd (List.mem_of_getLast? h) hline
  | more line rest hline ih =>
    rw [pieces_line hline] at hp
    rcases List.mem_cons.mp hp with rfl | hp
    · exact ⟨line, hline, rfl⟩
    · have hne : rest ≠ [] := by
        rintro rfl
        exact absurd hp List.not_mem_nil
      rw [getLast?_line, if_neg hne] at h
      exact ih h hp

/-- A text that ends in a newline has as many pieces as newlines. -/
theorem length_pieces (h : s.getLast? = some '\n') : (pieces s).length = s.count '\n' := by
  induction s using line_induction with
  | last line hline => exact absurd (List.mem_of_getLast? h) hline
  | more line rest hline ih =>
    have hcount : (line ++ '\n' :: rest).count '\n' = rest.count '\n' + 1 := by
      rw [List.count_append, List.count_eq_zero_of_not_mem hline, List.count_cons_self, Nat.zero_add]
    rw [pieces_line hline, List.length_cons, hcount]
    by_cases hne : rest = []
    · rw [hne]
      rfl
    · rw [getLast?_line, if_neg hne] at h
      rw [ih h]

/-- What a text lacks to end in a newline. -/
def ending (s : List Char) : List Char := if s.getLast? = some '\n' then [] else ['\n']

/-- With what it lacks a text ends in a newline. -/
theorem getLast?_append_ending (s : List Char) : (s ++ ending s).getLast? = some '\n' := by
  rw [ending]
  split_ifs with h
  · rw [List.append_nil, h]
  · exact List.getLast?_concat

/-- A text lacks what it lacks when it is normalised. -/
theorem ending_normalize (s : List Char) : ending (normalize s) = ending s := by
  rw [ending, getLast?_normalize, ← ending]

/-- A text with a newline in it lacks what is lacking after the newline, if anything is there. -/
theorem ending_line (h : rest ≠ []) : ending (line ++ '\n' :: rest) = ending rest := by
  rw [ending, getLast?_line, if_neg h, ← ending]

/-! ## Padding -/

/-- Puts `level` spaces before every line of a text and leaves the lines as they are. -/
def pad (level : ℕ) (s : List Char) : List Char := ((pieces s).map (spaces level ++ ·)).flatten

/-- There is nothing to pad in the empty text. -/
@[simp] theorem pad_nil : pad level [] = [] := rfl

/-- The first line of a text is padded on its own. -/
theorem pad_line (h : '\n' ∉ line) :
    pad level (line ++ '\n' :: rest) = spaces level ++ line ++ '\n' :: pad level rest := by
  rw [pad, pieces_line h, List.map_cons, List.flatten_cons, ← pad]
  simp

/-- A text with no newline is padded as one line. -/
theorem pad_of_last (h : '\n' ∉ line) (hne : line ≠ []) : pad level line = spaces level ++ line := by
  rw [pad, pieces_of_last h hne, List.map_singleton, List.flatten_singleton]

/-- A padded text has the characters of the text and spaces. -/
theorem mem_of_mem_pad (h : c ∈ pad level s) : c = ' ' ∨ c ∈ s := by
  obtain ⟨padded, hpadded, hc⟩ := List.mem_flatten.mp h
  obtain ⟨piece, hpiece, rfl⟩ := List.mem_map.mp hpadded
  rcases List.mem_append.mp hc with hspace | hc
  · exact .inl (List.eq_of_mem_replicate hspace)
  · rw [← flatten_pieces s]
    exact .inr (List.mem_flatten.mpr ⟨piece, hpiece, hc⟩)

/-- A text is left when spaces are taken out of the padded text. -/
theorem sublist_pad (level : ℕ) (s : List Char) : s.Sublist (pad level s) := by
  induction s using piece_induction with
  | nil => exact .slnil
  | last line hline hne =>
    rw [pad_of_last hline hne]
    exact List.sublist_append_right _ _
  | more line rest hline ih =>
    rw [pad_line hline]
    exact (List.sublist_append_right _ _).append (ih.cons_cons _)

/-- Indenting a text is normalising it and padding what remains. -/
theorem indent_eq_pad (level : ℕ) (s : List Char) : indent level s = pad level (normalize s) := by
  induction s using piece_induction with
  | nil => rfl
  | last line hline hne =>
    rw [normalize_of_last hline, indent_of_last hline hne, pad_of_last hline hne]
  | more line rest hline ih =>
    rw [indent_line hline, normalize_line hline, pad_line (newline_not_mem_dropEnd hline), ih]

/-- A text without carriage returns is only padded when it is indented. -/
theorem indent_of_return_not_mem (h : '\r' ∉ s) : indent level s = pad level s := by
  rw [indent_eq_pad, normalize_of_return_not_mem h]

/-- The characters of an indented text. -/
theorem toList_indentLines (level : ℕ) (text : String) :
    (indentLines level text).toList = indent level text.toList := String.toList_ofList

/-- A padded text is normalised below its spaces. -/
theorem normalize_pad (level : ℕ) (s : List Char) :
    normalize (pad level s) = pad level (normalize s) := by
  induction s using piece_induction with
  | nil => rfl
  | last line hline hne =>
    rw [normalize_of_last hline, pad_of_last hline hne,
      normalize_of_last (newline_not_mem_spaces_append hline)]
  | more line rest hline ih =>
    rw [pad_line hline, normalize_line (newline_not_mem_spaces_append hline), ih,
      dropEnd_append getLast?_spaces_ne_return, normalize_line hline,
      pad_line (newline_not_mem_dropEnd hline)]

/-- A text that is padded twice has the spaces of both. -/
theorem pad_pad (level level' : ℕ) (s : List Char) :
    pad level' (pad level s) = pad (level' + level) s := by
  have hspaces : spaces (level' + level) = spaces level' ++ spaces level :=
    List.replicate_append_replicate.symm
  induction s using piece_induction with
  | nil => rfl
  | last line hline hne =>
    have hpadded : spaces level ++ line ≠ [] := by simp [hne]
    rw [pad_of_last hline hne, pad_of_last (newline_not_mem_spaces_append hline) hpadded,
      pad_of_last hline hne, hspaces, List.append_assoc]
  | more line rest hline ih =>
    rw [pad_line hline, pad_line (newline_not_mem_spaces_append hline), ih, pad_line hline, hspaces]
    simp only [List.append_assoc]

/-- What follows whole lines is padded on its own. -/
theorem pad_append (h : s.getLast? = some '\n') : pad level (s ++ t) = pad level s ++ pad level t := by
  rw [pad, pieces_append (.inr h), List.map_append, List.flatten_append]
  rfl

/-- A padded text is empty only if the text is. -/
theorem pad_eq_nil_iff : pad level s = [] ↔ s = [] := by
  constructor
  · intro h
    have hsub := sublist_pad level s
    rw [h] at hsub
    exact List.eq_nil_of_sublist_nil hsub
  · rintro rfl
    rfl

/-- The last character of a text stays the last one when the text is padded. -/
theorem getLast?_pad (level : ℕ) (s : List Char) : (pad level s).getLast? = s.getLast? := by
  induction s using piece_induction with
  | nil => rfl
  | last line hline hne =>
    rw [pad_of_last hline hne, List.getLast?_append, List.getLast?_eq_some_getLast hne,
      Option.some_or]
  | more line rest hline ih => simp only [pad_line hline, getLast?_line, pad_eq_nil_iff, ih]

/-- What a text lacks to end in a newline may be added before or after padding. -/
theorem pad_append_ending (h : s ≠ []) : pad level (s ++ ending s) = pad level s ++ ending s := by
  induction s using line_induction with
  | last line hline =>
    have hending : ending line = ['\n'] := if_neg fun hl => hline (List.mem_of_getLast? hl)
    rw [hending, pad_line hline, pad_nil, pad_of_last hline h]
  | more line rest hline ih =>
    -- Nothing is lacking if the newline is the last character.
    by_cases hrest : rest = []
    · subst hrest
      have hending : ending (line ++ ['\n']) = [] := if_pos List.getLast?_concat
      rw [hending, List.append_nil, List.append_nil]
    · rw [ending_line hrest, List.append_assoc, List.cons_append, pad_line hline, ih hrest,
        pad_line hline]
      simp only [List.append_assoc, List.cons_append]

/-! ## Lost carriage returns -/

/-- A line without some of the carriage returns that stand before its newline. -/
def Shortened (p q : List Char) : Prop :=
  ∃ line n, '\n' ∉ line ∧ p = line ++ List.replicate n '\r' ++ ['\n'] ∧ q = line ++ ['\n']

/-- A whole line is itself without any carriage return being lost. -/
theorem shortened_self (h : '\n' ∉ line) : Shortened (line ++ ['\n']) (line ++ ['\n']) :=
  ⟨line, 0, h, by simp, rfl⟩

/-- Normalising a line takes nothing but a carriage return before its newline. -/
theorem Shortened.normalize (h : Shortened p q) : Shortened p (normalize q) := by
  obtain ⟨line, n, hline, rfl, rfl⟩ := h
  refine ⟨dropEnd '\r' line, ?_⟩
  rw [normalize_line hline, normalize_nil, dropEnd]
  split_ifs with hlast
  · -- The line ends in one more carriage return, which stands before those that are lost.
    obtain ⟨front, rfl⟩ := List.getLast?_eq_some_iff.mp hlast
    refine ⟨n + 1, ?_, ?_, rfl⟩
    · rw [List.dropLast_concat]
      exact fun hmem => hline (List.mem_append_left _ hmem)
    · rw [List.dropLast_concat, List.replicate_succ]
      simp
  · exact ⟨n, hline, rfl, rfl⟩

/-- What a normalised text has lost are carriage returns before newlines, also if it lacks a newline
at the end and gets it afterwards. -/
theorem shortened_pieces (s : List Char) :
    List.Forall₂ Shortened (pieces (s ++ ending s)) (pieces (normalize s ++ ending s)) := by
  induction s using line_induction with
  | last line hline =>
    have hending : ending line = ['\n'] := if_neg fun hl => hline (List.mem_of_getLast? hl)
    rw [hending, normalize_of_last hline, pieces_line hline]
    exact .cons (shortened_self hline) .nil
  | more line rest hline ih =>
    have hfirst : Shortened (line ++ ['\n']) (dropEnd '\r' line ++ ['\n']) := by
      have hnormal := (shortened_self hline).normalize
      rwa [normalize_line hline] at hnormal
    rw [normalize_line hline, List.append_assoc, List.append_assoc, List.cons_append,
      List.cons_append, pieces_line hline, pieces_line (newline_not_mem_dropEnd hline)]
    refine .cons hfirst ?_
    by_cases hrest : rest = []
    · subst hrest
      have hending : ending (line ++ ['\n']) = [] := if_pos List.getLast?_concat
      rw [hending]
      exact .nil
    · rw [ending_line hrest]
      exact ih

end BlackBox.Text
