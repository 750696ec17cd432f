import BlackBox.Text.Blank

/-!
# Words between white space

A text that consists of words with white space around them is split into these words, whatever the
white space is and however much there is of it (`words_of_spaced`). That follows from one equation:
at white space a text splits into two whose words have nothing to do with each other
(`words_append_cons`). Of any text at all the words are what is left when its white space is taken
away (`flatten_words`).
-/

namespace BlackBox.Text

variable {c : Char} {s t w gap : List Char} {ws : List (List Char)}

/-- There is nothing but white space in a text. -/
def Blank (s : List Char) : Prop := ∀ c ∈ s, isBlank c = true

/-- It can be decided whether a text is blank. -/
instance (s : List Char) : Decidable (Blank s) :=
  List.decidableBAll (isBlank · = true) s

/-- A word has characters, none of which is white space. -/
structure IsWord (w : List Char) : Prop where
  /-- There are characters in it. -/
  ne_nil : w ≠ []
  /-- None of them is white space. -/
  not_blank : ∀ c ∈ w, isBlank c = false

/-- It can be decided whether a text is a word. -/
instance (w : List Char) : Decidable (IsWord w) :=
  haveI : Decidable (∀ c ∈ w, isBlank c = false) := List.decidableBAll (isBlank · = false) w
  decidable_of_iff (w ≠ [] ∧ ∀ c ∈ w, isBlank c = false)
    ⟨fun h => ⟨h.1, h.2⟩, fun h => ⟨h.ne_nil, h.not_blank⟩⟩

/-- Words in a text, with white space between any two of them and perhaps before and after them. -/
inductive Spaced : List (List Char) → List Char → Prop where
  /-- There are no words. -/
  | none {gap : List Char} : Blank gap → Spaced [] gap
  /-- There is one word. -/
  | one {before after : List Char} (w : List Char) :
      Blank before → Blank after → Spaced [w] (before ++ w ++ after)
  /-- There is a word with a gap between it and the others. -/
  | more {before gap text : List Char} {ws : List (List Char)} (w : List Char) :
      Blank before → Blank gap → gap ≠ [] → Spaced ws text →
      Spaced (w :: ws) (before ++ w ++ gap ++ text)

/-! ## Fields -/

/-- White space opens a field. -/
theorem fields_cons_of_blank (h : isBlank c = true) : fields (c :: s) = [] :: fields s := by
  simp [fields_cons, attachField, h]

/-- Any other character is put in front of the first field. -/
theorem attachField_cons (h : isBlank c = false) (f : List Char) (fs : List (List Char)) :
    attachField c (f :: fs) = (c :: f) :: fs := by
  simp [attachField, h]

/-- There is always a field, be it an empty one. -/
theorem fields_ne_nil (s : List Char) : fields s ≠ [] := by
  induction s with
  | nil => exact List.cons_ne_nil _ _
  | cons c s ih =>
    by_cases hc : isBlank c = true
    · rw [fields_cons_of_blank hc]
      exact List.cons_ne_nil _ _
    · rw [Bool.not_eq_true] at hc
      obtain ⟨f, fs, hf⟩ := List.exists_cons_of_ne_nil ih
      rw [fields_cons, hf, attachField_cons hc]
      exact List.cons_ne_nil _ _

/-- A character that is no white space belongs to the first field. -/
theorem fields_cons_of_not_blank (h : isBlank c = false) :
    ∃ f fs, fields s = f :: fs ∧ fields (c :: s) = (c :: f) :: fs := by
  obtain ⟨f, fs, hf⟩ := List.exists_cons_of_ne_nil (fields_ne_nil s)
  exact ⟨f, fs, hf, by rw [fields_cons, hf, attachField_cons h]⟩

/-- White space parts the fields before it from those after it. -/
theorem fields_append_cons (h : isBlank c = true) :
    fields (s ++ c :: t) = fields s ++ fields t := by
  induction s with
  | nil => exact fields_cons_of_blank h
  | cons d s ih =>
    by_cases hd : isBlank d = true
    · rw [List.cons_append, fields_cons_of_blank hd, fields_cons_of_blank hd, ih, List.cons_append]
    · rw [Bool.not_eq_true] at hd
      obtain ⟨f, fs, hfields, hcons⟩ := fields_cons_of_not_blank (s := s) hd
      rw [hcons, List.cons_append, fields_cons, ih, hfields, List.cons_append, attachField_cons hd,
        List.cons_append]

/-- There is no white space in a field. -/
theorem not_blank_of_mem_fields (h : w ∈ fields s) (hc : c ∈ w) : isBlank c = false := by
  induction s generalizing w with
  | nil =>
    obtain rfl := List.mem_singleton.mp h
    exact absurd hc List.not_mem_nil
  | cons d s ih =>
    by_cases hd : isBlank d = true
    · rw [fields_cons_of_blank hd] at h
      rcases List.mem_cons.mp h with rfl | h
      · -- White space adds a field of its own, but an empty one.
        exact absurd hc List.not_mem_nil
      · exact ih h hc
    · rw [Bool.not_eq_true] at hd
      obtain ⟨f, fs, hfields, hcons⟩ := fields_cons_of_not_blank (s := s) hd
      rw [hcons] at h
      rw [hfields] at ih
      rcases List.mem_cons.mp h with rfl | h
      · rcases List.mem_cons.mp hc with rfl | hc
        · exact hd
        · exact ih List.mem_cons_self hc
      · exact ih (List.mem_cons_of_mem _ h) hc

/-- The fields hold every character that is not white space, in order. -/
theorem flatten_fields (s : List Char) : (fields s).flatten = s.filter (!isBlank ·) := by
  induction s with
  | nil => rfl
  | cons c s ih =>
    by_cases hc : isBlank c = true
    · rw [fields_cons_of_blank hc, List.flatten_cons, List.nil_append, ih,
        List.filter_cons_of_neg (by simp [hc])]
    · rw [Bool.not_eq_true] at hc
      obtain ⟨f, fs, hfields, hcons⟩ := fields_cons_of_not_blank (s := s) hc
      rw [hfields] at ih
      rw [hcons, List.filter_cons_of_pos (by simp [hc]), ← ih]
      rfl

/-! ## Words -/

/-- There are no words in the empty text. -/
@[simp] theorem words_nil : words [] = [] := rfl

/-- White space parts the words before it from those after it. -/
theorem words_append_cons (h : isBlank c = true) : words (s ++ c :: t) = words s ++ words t := by
  rw [words, fields_append_cons h, List.filter_append]
  rfl

/-- A gap parts the words before it from those after it. -/
theorem words_append_gap (h : Blank gap) (hne : gap ≠ []) :
    words (s ++ gap ++ t) = words s ++ words t := by
  induction gap generalizing s with
  | nil => contradiction
  | cons c gap ih =>
    have hc : isBlank c = true := h c List.mem_cons_self
    have hgap : Blank gap := fun d hd => h d (List.mem_cons_of_mem c hd)
    by_cases hnil : gap = []
    · rw [hnil, List.append_assoc]
      exact words_append_cons hc
    · -- The rest of the gap parts an empty text from the words after it.
      have hrest : words ([] ++ gap ++ t) = words [] ++ words t := ih hgap hnil
      rw [List.append_assoc, List.cons_append, words_append_cons hc]
      exact congrArg (words s ++ ·) hrest

/-- White space before a text makes no difference to its words. -/
theorem words_blank_append (h : Blank gap) : words (gap ++ s) = words s := by
  by_cases hne : gap = []
  · rw [hne, List.nil_append]
  · exact words_append_gap (s := []) h hne

/-- White space after a text makes no difference to its words. -/
theorem words_append_blank (h : Blank gap) : words (s ++ gap) = words s := by
  by_cases hne : gap = []
  · rw [hne, List.append_nil]
  · have hgap : words (s ++ gap ++ []) = words s ++ words [] := words_append_gap h hne
    rwa [List.append_nil, words_nil, List.append_nil] at hgap

/-- A word is the only word in it. -/
theorem words_of_isWord (h : IsWord w) : words w = [w] := by
  -- This is about fields: the rest of a word may be empty, and then it is a field but no word.
  have hfields : ∀ w : List Char, (∀ c ∈ w, isBlank c = false) → fields w = [w] := by
    intro w hw
    induction w with
    | nil => rfl
    | cons c w ih =>
      obtain ⟨hc, hw⟩ := List.forall_mem_cons.mp hw
      obtain ⟨f, fs, hf, hcons⟩ := fields_cons_of_not_blank (s := w) hc
      rw [ih hw] at hf
      injection hf with hf hfs
      rw [hcons, ← hf, ← hfs]
  rw [words, hfields w h.not_blank, List.filter_cons_of_pos (by simp [h.ne_nil])]
  rfl

/-- A text of words with white space around them has exactly these words. -/
theorem words_of_spaced (h : Spaced ws s) (hws : ∀ w ∈ ws, IsWord w) : words s = ws := by
  induction h with
  | none hgap => exact words_append_blank (s := []) hgap
  | one w hbefore hafter =>
    rw [words_append_blank hafter, words_blank_append hbefore,
      words_of_isWord (hws w List.mem_cons_self)]
  | more w hbefore hgap hne _ ih =>
    obtain ⟨hw, hws⟩ := List.forall_mem_cons.mp hws
    rw [words_append_gap hgap hne, words_blank_append hbefore, words_of_isWord hw, ih hws]
    rfl

/-- The words of a text are words. -/
theorem isWord_of_mem_words (h : w ∈ words s) : IsWord w := by
  obtain ⟨hfield, hne⟩ := List.mem_filter.mp h
  exact ⟨by simpa using hne, fun c hc => not_blank_of_mem_fields hfield hc⟩

/-- The words of a text are the text without its white space. -/
theorem flatten_words (s : List Char) : (words s).flatten = s.filter (!isBlank ·) := by
  rw [words, List.flatten_filter_not_isEmpty, flatten_fields]

/-- Only a text of white space has no words. -/
theorem words_eq_nil_iff : words s = [] ↔ Blank s := by
  constructor
  · intro h c hc
    have hfilter : s.filter (!isBlank ·) = [] := by rw [← flatten_words, h]; rfl
    simpa using List.filter_eq_nil_iff.mp hfilter c hc
  · intro h
    exact words_append_blank (s := []) h

end BlackBox.Text
