import BlackBox.Proofs.Text.LineEnds

/-!
# Indented texts

What is known of a text from its indentation. The lines of an indented text are those of the
normalised text with spaces before them, and there is nothing else in it (`Indented`). So it depends
on the carriage returns in a text whether the text itself can be recovered, and whether indenting it
twice is the same as indenting it once by more spaces (`indentLines_adds_spaces`).

The lines of a text are here what stands between its newlines. After a newline at the end of a text
there is an empty piece, which is no line and does not get any spaces.
-/

namespace BlackBox.Text

variable {line s t : List Char} {level level' : ℕ}

/-! ## The lines of a padded text -/

/-- Takes as many characters off the beginning of every line. -/
def unindent (level : ℕ) (s : List Char) : List Char :=
  ['\n'].intercalate ((s.splitOn '\n').map (List.drop level))

/-- Padding a text is undone by taking the spaces off its lines. -/
theorem unindent_pad (level : ℕ) (s : List Char) : unindent level (pad level s) = s := by
  have hdrop : ∀ line, List.drop level (spaces level ++ line) = line :=
    fun line => List.drop_left' List.length_replicate
  -- By the lines of the unpadded text: the spaces are what is known of the padded ones.
  induction s using piece_induction with
  | nil => simp [unindent]
  | last line hline hne =>
    rw [pad_of_last hline hne, unindent,
      List.splitOn_eq_singleton (newline_not_mem_spaces_append hline), List.map_singleton, hdrop,
      List.intercalate_singleton]
  | more line rest hline ih =>
    have hne : ((pad level rest).splitOn '\n').map (List.drop level) ≠ [] := by
      simp [List.splitOn_ne_nil]
    rw [pad_line hline, unindent,
      List.splitOn_append_cons_self_of_not_mem (newline_not_mem_spaces_append hline), List.map_cons,
      hdrop, List.intercalate_cons_of_ne_nil hne, ← unindent, ih, List.append_assoc,
      List.singleton_append]

/-- Different texts are different when they are padded. -/
theorem pad_inj : pad level s = pad level t ↔ s = t := by
  refine ⟨fun h => ?_, congrArg (pad level)⟩
  rw [← unindent_pad level s, h, unindent_pad]

/-- Newlines are neither added nor lost when a text is padded. -/
theorem count_pad (level : ℕ) (s : List Char) : (pad level s).count '\n' = s.count '\n' := by
  have hspaces : (spaces level).count '\n' = 0 :=
    List.count_eq_zero_of_not_mem newline_not_mem_spaces
  induction s using piece_induction with
  | nil => rfl
  | last line hline hne => rw [pad_of_last hline hne, List.count_append, hspaces, Nat.zero_add]
  | more line rest hline ih =>
    rw [pad_line hline, List.append_assoc, List.count_append, hspaces, Nat.zero_add,
      List.count_append, List.count_append, List.count_cons_self, List.count_cons_self, ih]

/-- Every line that a newline ends has the spaces before it. -/
theorem spaces_prefix_of_mem_dropLast (h : line ∈ ((pad level s).splitOn '\n').dropLast) :
    spaces level <+: line := by
  induction s using piece_induction with
  | nil => simp at h
  | last l hl hne =>
    rw [pad_of_last hl hne, List.splitOn_eq_singleton (newline_not_mem_spaces_append hl)] at h
    simp at h
  | more l rest hl ih =>
    rw [pad_line hl, List.splitOn_append_cons_self_of_not_mem (newline_not_mem_spaces_append hl),
      List.dropLast_cons_of_ne_nil (List.splitOn_ne_nil _ _)] at h
    rcases List.mem_cons.mp h with rfl | h
    · exact List.prefix_append _ _
    · exact ih h

/-- A last line that no newline ends has the spaces before it, if there is one. -/
theorem spaces_prefix_of_mem_getLast? (h : line ∈ ((pad level s).splitOn '\n').getLast?) :
    line = [] ∨ spaces level <+: line := by
  induction s using piece_induction with
  | nil =>
    -- The piece after a newline at the end is padded as an empty text, which stays empty.
    left
    simpa [eq_comm] using h
  | last l hl hne =>
    rw [pad_of_last hl hne, List.splitOn_eq_singleton (newline_not_mem_spaces_append hl)] at h
    obtain rfl := Option.mem_some_iff.mp h
    exact .inr (List.prefix_append _ _)
  | more l rest hl ih =>
    rw [pad_line hl, List.splitOn_append_cons_self_of_not_mem (newline_not_mem_spaces_append hl),
      List.getLast?_cons_of_ne_nil (List.splitOn_ne_nil _ _)] at h
    exact ih h

/-! ## The indentation of a text -/

/-- A text is another text with spaces before each of its lines. -/
structure Indented (level : ℕ) (s out : List Char) : Prop where
  /-- There are as many newlines as before. -/
  newlines : out.count '\n' = s.count '\n'
  /-- A newline is at the end if it has been there before. -/
  ends_iff : out.getLast? = some '\n' ↔ s.getLast? = some '\n'
  /-- Every line that a newline ends begins with the spaces, also one that is blank. -/
  whole : ∀ line ∈ (out.splitOn '\n').dropLast, List.replicate level ' ' <+: line
  /-- What is after the last newline begins with the spaces, if anything is there. -/
  last : ∀ line ∈ (out.splitOn '\n').getLast?, line = [] ∨ List.replicate level ' ' <+: line
  /-- Without the spaces the lines are those of the normalised text. -/
  rest : unindent level out = normalize s

/-- An indented text has spaces before its lines. -/
theorem indented_indent (level : ℕ) (s : List Char) : Indented level s (indent level s) := by
  rw [indent_eq_pad]
  refine ⟨?_, ?_, fun _ => spaces_prefix_of_mem_dropLast, fun _ => spaces_prefix_of_mem_getLast?,
    unindent_pad _ _⟩
  · rw [count_pad, count_normalize]
  · rw [getLast?_pad, getLast?_normalize s]

/-- Texts are indented alike if they are normalised alike. -/
theorem indent_inj : indent level s = indent level t ↔ normalize s = normalize t := by
  rw [indent_eq_pad, indent_eq_pad, pad_inj]

/-- Indenting a text twice is normalising it twice, with the spaces of both. -/
theorem indent_indent (level level' : ℕ) (s : List Char) :
    indent level' (indent level s) = pad (level + level') (normalize (normalize s)) := by
  -- Spaces stand in front of a line, where they cannot come between a return and a newline.
  rw [indent_eq_pad, indent_eq_pad, normalize_pad, pad_pad, Nat.add_comm]

/-- Indentations add up exactly for the texts in which there are never two carriage returns before a
newline. -/
theorem indent_indent_eq_iff :
    indent level' (indent level s) = indent (level + level') s ↔ ¬ ['\r', '\r', '\n'] <:+: s := by
  rw [indent_indent, indent_eq_pad, pad_inj, normalize_eq_self_iff,
    return_newline_infix_normalize_iff]

/-- An indented text has spaces before each line of the normalised text and is not changed
otherwise. Without the spaces it is the text itself exactly if no carriage return stands before a
newline in the text; indenting it again adds more spaces and does nothing else exactly if no two of
them do; and two texts are indented alike exactly if they are normalised alike. -/
theorem indentLines_adds_spaces (level : ℕ) (text : String) :
    Indented level text.toList (indentLines level text).toList ∧
    (unindent level (indentLines level text).toList = text.toList ↔
      ¬ "\r\n".toList <:+: text.toList) ∧
    (∀ level', indentLines level' (indentLines level text) = indentLines (level + level') text ↔
      ¬ "\r\r\n".toList <:+: text.toList) ∧
    ∀ text', indentLines level text = indentLines level text' ↔
      normalizeNewlines text = normalizeNewlines text' := by
  have hindented := indented_indent level text.toList
  refine ⟨?_, ?_, fun level' => ?_, fun text' => ?_⟩
  · rwa [toList_indentLines]
  · rw [toList_indentLines, hindented.rest]
    exact normalize_eq_self_iff
  · rw [indentLines, toList_indentLines, indentLines, String.ofList_inj]
    exact indent_indent_eq_iff
  · rw [indentLines, indentLines, String.ofList_inj, indent_inj, normalizeNewlines,
      normalizeNewlines, String.ofList_inj]

end BlackBox.Text
