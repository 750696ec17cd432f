import Mathlib.Data.List.Induction
import BlackBox.Text.Lines

/-!
# Texts line by line

Splitting a text into lines and indenting it are folds over characters. Here they are described by
what they do to the first line of a text: `lines_line` and `indent_line` take a line with its
newline off the text, `lines_of_last` and `indent_of_last` are about a text with no newline, and
`line_induction` and `piece_induction` are the inductions that go with them.
-/

namespace BlackBox.Text

variable {line rest s t : List Char} {level : Nat}

/-! ## First lines -/

/-- Every text has no newline or is a line with its newline before another text. -/
theorem line_induction {motive : List Char → Prop}
    (last : ∀ line, '\n' ∉ line → motive line)
    (more : ∀ line rest, '\n' ∉ line → motive rest → motive (line ++ '\n' :: rest))
    (s : List Char) : motive s := by
  -- The characters before `s` belong to the line that `s` begins in the middle of.
  suffices h : ∀ s line, '\n' ∉ line → motive (line ++ s) from h s [] List.not_mem_nil
  intro s
  induction s with
  | nil =>
    intro line hline
    rw [List.append_nil]
    exact last line hline
  | cons c s ih =>
    intro line hline
    by_cases hc : c = '\n'
    · subst hc
      exact more line s hline (ih [] List.not_mem_nil)
    · have hnext : '\n' ∉ line ++ [c] := by
        simp only [List.mem_append, List.mem_singleton, not_or]
        exact ⟨hline, fun h => hc h.symm⟩
      have hmove : line ++ c :: s = line ++ [c] ++ s := by simp
      rw [hmove]
      exact ih (line ++ [c]) hnext

/-- Every text is empty, or a line with no newline, or a line with its newline before another text.
These are the cases in which a text has no piece, one piece, and a piece before others. -/
theorem piece_induction {motive : List Char → Prop} (nil : motive [])
    (last : ∀ line, '\n' ∉ line → line ≠ [] → motive line)
    (more : ∀ line rest, '\n' ∉ line → motive rest → motive (line ++ '\n' :: rest))
    (s : List Char) : motive s := by
  induction s using line_induction with
  | last line hline =>
    by_cases hne : line = []
    · rw [hne]
      exact nil
    · exact last line hline hne
  | more line rest hline ih => exact more line rest hline ih

/-- A text with a newline is its first line before the rest. -/
theorem exists_line_of_mem (h : '\n' ∈ s) :
    ∃ line rest, '\n' ∉ line ∧ s = line ++ '\n' :: rest := by
  induction s using line_induction with
  | last line hline => exact absurd h hline
  | more line rest hline _ => exact ⟨line, rest, hline, rfl⟩

/-- The first piece of a text is its first line with the newline. -/
theorem pieces_line (h : '\n' ∉ line) :
    pieces (line ++ '\n' :: rest) = (line ++ ['\n']) :: pieces rest := by
  induction line with
  | nil => simp [attach]
  | cons c line ih =>
    rw [List.mem_cons, not_or] at h
    obtain ⟨hc, hline⟩ := h
    rw [List.cons_append, pieces_cons, ih hline, attach, if_neg (Ne.symm hc)]
    rfl

/-- A text with no newline is one piece. -/
theorem pieces_of_last (h : '\n' ∉ line) (hne : line ≠ []) : pieces line = [line] := by
  induction line with
  | nil => contradiction
  | cons c line ih =>
    rw [List.mem_cons, not_or] at h
    obtain ⟨hc, hline⟩ := h
    rw [pieces_cons]
    by_cases hl : line = []
    · subst hl
      simp [attach, Ne.symm hc]
    · rw [ih hline hl, attach, if_neg (Ne.symm hc)]

/-- The first line of a text is what is before its first newline, without a carriage return at the
end. -/
theorem lines_line (h : '\n' ∉ line) :
    lines (line ++ '\n' :: rest) = dropEnd '\r' line :: lines rest := by
  have hlast : (line ++ ['\n']).getLast? = some '\n' := List.getLast?_concat
  rw [lines, pieces_line h, List.map_cons, lineOf, if_pos hlast, List.dropLast_concat]
  rfl

/-- A text with no newline is one line. -/
theorem lines_of_last (h : '\n' ∉ line) (hne : line ≠ []) : lines line = [line] := by
  have hlast : line.getLast? ≠ some '\n' := fun hl => h (List.mem_of_getLast? hl)
  rw [lines, pieces_of_last h hne, List.map_singleton, lineOf, if_neg hlast]

/-- There are no lines in the empty text. -/
@[simp] theorem lines_nil : lines [] = [] := rfl

/-! ## Whole lines -/

/-- The end of a text with a newline in it is the end of what follows the newline, if anything
does. -/
theorem getLast?_line :
    (line ++ '\n' :: rest).getLast? = if rest = [] then some '\n' else rest.getLast? := by
  cases rest with
  | nil => simp
  | cons c rest =>
    rw [List.getLast?_append, List.getLast?_cons_cons, if_neg (List.cons_ne_nil c rest)]
    simp [List.getLast?_cons]

/-- The pieces of a text that follows whole lines are pieces of their own. -/
theorem pieces_append (h : s = [] ∨ s.getLast? = some '\n') :
    pieces (s ++ t) = pieces s ++ pieces t := by
  induction s using line_induction with
  | last line hline =>
    rcases h with rfl | h
    · rfl
    · exact absurd (List.mem_of_getLast? h) hline
  | more line rest hline ih =>
    -- What is left after the first line is nothing or ends in a newline too.
    have hrest : rest = [] ∨ rest.getLast? = some '\n' := by
      rcases h with h | h
      · simp at h
      · rw [getLast?_line] at h
        split_ifs at h with hnil
        · exact .inl hnil
        · exact .inr h
    rw [List.append_assoc, List.cons_append, pieces_line hline, pieces_line hline, ih hrest,
      List.cons_append]

/-- The lines of a text that follows whole lines are lines of their own. -/
theorem lines_append (h : s = [] ∨ s.getLast? = some '\n') : lines (s ++ t) = lines s ++ lines t := by
  rw [lines, pieces_append h, List.map_append]
  rfl

/-- A text is its pieces one after the other. -/
theorem flatten_pieces (s : List Char) : (pieces s).flatten = s := by
  induction s using piece_induction with
  | nil => rfl
  | last line hline hne => rw [pieces_of_last hline hne, List.flatten_singleton]
  | more line rest hline ih =>
    rw [pieces_line hline, List.flatten_cons, ih, List.append_assoc, List.singleton_append]

/-- What is put before a line stays when the line loses its last character. -/
theorem dropEnd_append {start : List Char} {c : Char} (h : start.getLast? ≠ some c) :
    dropEnd c (start ++ line) = start ++ dropEnd c line := by
  cases line using List.reverseRecOn with
  | nil => simp [dropEnd, h]
  | append_singleton line d => by_cases hd : d = c <;> simp [dropEnd, hd, ← List.append_assoc]

/-- What is put before a text goes to its first line. -/
theorem lines_prefix {start : List Char} (hs : '\n' ∉ start) (hcr : start.getLast? ≠ some '\r')
    (hline : '\n' ∉ line) :
    lines (start ++ (line ++ '\n' :: rest)) = (start ++ dropEnd '\r' line) :: lines rest := by
  have hboth : '\n' ∉ start ++ line := by
    rw [List.mem_append, not_or]
    exact ⟨hs, hline⟩
  rw [← List.append_assoc, lines_line hboth, dropEnd_append hcr]

/-- A line has no newline after it has lost its last character. -/
theorem newline_not_mem_dropEnd {c : Char} (h : '\n' ∉ line) : '\n' ∉ dropEnd c line := by
  rw [dropEnd]
  split_ifs
  · exact fun hmem => h (List.dropLast_subset line hmem)
  · exact h

/-! ## Indentation -/

/-- The spaces before an indented line. -/
def spaces (level : Nat) : List Char := List.replicate level ' '

/-- A space is no newline. -/
theorem newline_not_mem_spaces : '\n' ∉ spaces level := by
  intro h
  exact absurd (List.eq_of_mem_replicate h) (by decide)

/-- There is no newline in a line with spaces before it. -/
theorem newline_not_mem_spaces_append (h : '\n' ∉ line) : '\n' ∉ spaces level ++ line := by
  rw [List.mem_append, not_or]
  exact ⟨newline_not_mem_spaces, h⟩

/-- Spaces do not end in a carriage return. -/
theorem getLast?_spaces_ne_return : (spaces level).getLast? ≠ some '\r' := by
  intro h
  exact absurd (List.eq_of_mem_replicate (List.mem_of_getLast? h)) (by decide)

/-- The first line of a text is indented on its own, without a carriage return before its newline.
-/
theorem indent_line (h : '\n' ∉ line) : indent level (line ++ '\n' :: rest) =
    spaces level ++ dropEnd '\r' line ++ '\n' :: indent level rest := by
  rw [indent, indent, lines_line h, getLast?_line]
  by_cases hnil : rest = []
  · subst hnil
    simp [spaces, List.intercalate]
  · obtain ⟨l, ls, hls⟩ : ∃ l ls, lines rest = l :: ls := by
      induction rest using line_induction with
      | last rest hrest => exact ⟨_, _, lines_of_last hrest hnil⟩
      | more l rest hl _ => exact ⟨_, _, lines_line hl⟩
    rw [hls, if_neg hnil]
    simp [spaces, List.intercalate]

/-- A text with no newline is indented as one line. -/
theorem indent_of_last (h : '\n' ∉ line) (hne : line ≠ []) :
    indent level line = spaces level ++ line := by
  have hlast : line.getLast? ≠ some '\n' := fun hl => h (List.mem_of_getLast? hl)
  rw [indent, lines_of_last h hne, if_neg hlast]
  simp [spaces, List.intercalate]

/-- A text in which a character does not occur does not end in it. -/
theorem dropEnd_of_not_mem {c : Char} (h : c ∉ line) : dropEnd c line = line :=
  if_neg fun hlast => h (List.mem_of_getLast? hlast)

/-- An indented text ends in a newline if the text does. -/
theorem getLast?_indent (h : s.getLast? = some '\n') :
    (indent level s).getLast? = some '\n' := by
  rw [indent, if_pos h, List.getLast?_concat]

/-- Every line of an indented text begins with the spaces of the indentation. -/
theorem spaces_prefix_of_mem_lines (h : line ∈ lines (indent level s)) :
    spaces level <+: line := by
  induction s using piece_induction with
  | nil => exact absurd h List.not_mem_nil
  | last l hl hne =>
    have hpadded : spaces level ++ l ≠ [] := by simp [hne]
    rw [indent_of_last hl hne, lines_of_last (newline_not_mem_spaces_append hl) hpadded] at h
    rw [List.mem_singleton.mp h]
    exact List.prefix_append _ _
  | more l rest hl ih =>
    rw [indent_line hl, List.append_assoc, lines_prefix newline_not_mem_spaces
      getLast?_spaces_ne_return (newline_not_mem_dropEnd hl)] at h
    rcases List.mem_cons.mp h with rfl | h
    · exact List.prefix_append _ _
    · exact ih h

end BlackBox.Text
