import BlackBox.Proofs.Pattern.Reading
import BlackBox.Proofs.Running

/-!
# Outputs that match a pattern

What comes of a test case that expects a core pattern, if the exit code is right. For a pattern that
can be looked for the case passes exactly if some part of the output matches, as `Core.Matches`
defines it; otherwise the pattern and the output are reported as they are. A pattern that is nested
too deep, or too large for what is built to look for it, is refused, whatever the output is. For two
kinds of patterns there is a description without positions: a word is found where it is a part of
the output (`occursIn_word_iff`), and a word between the signs for the ends of lines where it fills
whole lines (`occursIn_line_iff`).
-/

namespace BlackBox

namespace Pattern.Core

variable {s w : List Char} {b : Core .branch} {i j : ℕ}

/-! ## Words -/

/-- The characters of a word before the rest of a branch. -/
def chars : List Char → Core .branch → Core .branch
  | [], b => b
  | c :: w, b => cat (char (.of c)) (chars w b)

/-- The pattern of a word. -/
def word (w : String) : Core .choice := one (chars w.toList nothing)

/-- The pattern of a word between the ends of lines. -/
def line (w : String) : Core .choice :=
  one (cat lineStart (chars w.toList (cat lineEnd nothing)))

/-- A word with a backslash before each sign. -/
def escaped (w : String) : String :=
  String.ofList (w.toList.flatMap fun c => if c ∈ signs then ['\\', c] else [c])

/-- The characters of a word are written with a backslash before each sign. -/
theorem text_chars (w : List Char) (b : Core .branch) :
    (chars w b).text = (w.flatMap fun c => if c ∈ signs then ['\\', c] else [c]) ++ b.text := by
  induction w with
  | nil => rfl
  | cons c w ih =>
    have hc : (Literal.of c).text = if c ∈ signs then ['\\', c] else [c] := by
      unfold Literal.text Literal.of
      simp only [List.contains_iff_mem]
    rw [List.flatMap_cons, List.append_assoc, ← ih, ← hc]
    rfl

/-- The pattern of a word is the word with backslashes. -/
theorem pattern_word (w : String) : (word w).pattern = escaped w := by
  have htext : (word w).text = (chars w.toList nothing).text := rfl
  unfold pattern escaped
  rw [htext, text_chars]
  exact congrArg String.ofList (List.append_nil _)

/-- The pattern of a word on a line is the word with backslashes between the two signs. -/
theorem pattern_line (w : String) : (line w).pattern = "^" ++ escaped w ++ "$" := by
  have htext : (line w).text = '^' :: (chars w.toList (cat lineEnd nothing)).text := rfl
  unfold pattern escaped
  rw [htext, text_chars, ← String.toList_inj]
  simp only [String.toList_append, String.toList_ofList]
  rfl

/-- The characters of a word are a level above what follows them. -/
theorem partDepth_chars (w : List Char) (b : Core .branch) :
    (chars w b).partDepth = b.partDepth := by
  induction w with
  | nil => rfl
  | cons c w ih => exact (Nat.zero_max _).trans ih

/-- One branch without groups and stars is not nested too deep. -/
theorem depth_one_le (hdepth : b.partDepth = 0) : (one b).depth ≤ maxHeight := by
  unfold depth partDepth joinDepth
  rw [hdepth]
  split_ifs <;> decide

/-- A word is not nested too deep. -/
theorem depth_word_le (w : String) : (word w).depth ≤ maxHeight :=
  depth_one_le (partDepth_chars _ _)

/-- A word between the signs for the ends of lines is not nested too deep. -/
theorem depth_line_le (w : String) : (line w).depth ≤ maxHeight :=
  depth_one_le ((Nat.zero_max _).trans (partDepth_chars _ _))

/-- The characters of a word match where it stands, and what follows them matches after it. -/
theorem matches_chars_iff :
    (chars w b).Matches s i j ↔ w <+: s.drop i ∧ b.Matches s (i + w.length) j := by
  induction w generalizing i with
  | nil => exact (and_iff_right List.nil_prefix).symm
  | cons c w ih =>
    have hcons : c :: w <+: s.drop i ↔ s[i]? = some c ∧ w <+: s.drop (i + 1) := by
      by_cases hi : i < s.length
      · rw [List.drop_eq_getElem_cons hi, List.cons_prefix_cons, List.getElem?_eq_getElem hi,
          Option.some_inj, eq_comm]
      · rw [List.drop_eq_nil_of_le (not_lt.mp hi), List.getElem?_eq_none (not_lt.mp hi)]
        simp
    have hlength : i + (c :: w).length = i + 1 + w.length := by
      rw [List.length_cons]
      omega
    unfold chars
    rw [matches_cat_iff, hcons, hlength, and_assoc, ← ih]
    constructor
    · rintro ⟨k, hc, hrest⟩
      obtain ⟨hget, rfl⟩ := matches_char_iff.mp hc
      exact ⟨hget, hrest⟩
    · rintro ⟨hget, hrest⟩
      exact ⟨i + 1, .char hget, hrest⟩

/-- A word is found exactly if it is a part of the text. -/
theorem occursIn_word_iff (w : String) : (word w).OccursIn s ↔ w.toList <:+: s := by
  unfold OccursIn word
  constructor
  · rintro ⟨i, j, -, -, h⟩
    rw [matches_one_iff, matches_chars_iff] at h
    exact h.1.isInfix.trans (List.drop_suffix i s).isInfix
  · rintro ⟨before, behind, rfl⟩
    refine ⟨before.length, before.length + w.toList.length, Nat.le_add_right _ _, ?_, ?_⟩
    · rw [List.length_append, List.length_append]
      exact Nat.le_add_right _ _
    · rw [matches_one_iff, matches_chars_iff, List.append_assoc, List.drop_left]
      exact ⟨List.prefix_append _ _, .nothing _⟩

/-! ## Lines -/

/-- Some characters fill whole lines of a text: they stand between two ends of lines. -/
def FillsLines (w s : List Char) : Prop :=
  ∃ before behind, s = before ++ w ++ behind ∧ (before = [] ∨ before.getLast? = some '\n') ∧
    (behind = [] ∨ behind.head? = some '\n')

/-- A line begins behind a part of a text that is empty or ends with a newline. -/
theorem atLineStart_append (before rest : List Char) :
    AtLineStart (before ++ rest) before.length ↔ before = [] ∨ before.getLast? = some '\n' := by
  unfold AtLineStart
  by_cases hbefore : before = []
  · simp [hbefore]
  · have hlast : before.length - 1 < before.length :=
      Nat.sub_lt (List.length_pos_iff.mpr hbefore) Nat.one_pos
    rw [List.length_eq_zero_iff, List.getElem?_append_left hlast, List.getLast?_eq_getElem?]

/-- A line ends before a part of a text that is empty or begins with a newline. -/
theorem atLineEnd_append (rest behind : List Char) :
    AtLineEnd (rest ++ behind) rest.length ↔ behind = [] ∨ behind.head? = some '\n' := by
  unfold AtLineEnd
  rw [List.getElem?_append_right (Nat.le_refl _), Nat.sub_self, List.head?_eq_getElem?,
    List.length_append, Nat.left_eq_add, List.length_eq_zero_iff]

/-- A word between the signs for the ends of lines is found exactly if it fills whole lines. -/
theorem occursIn_line_iff (w : String) : (line w).OccursIn s ↔ FillsLines w.toList s := by
  -- The signs match nothing, so that a match begins and ends with the word.
  have hmatch : ∀ i j, (line w).Matches s i j ↔
      AtLineStart s i ∧ w.toList <+: s.drop i ∧ AtLineEnd s j ∧ j = i + w.toList.length := by
    intro i j
    unfold line
    rw [matches_one_iff, matches_cat_iff]
    simp only [matches_lineStart_iff, matches_chars_iff, matches_cat_iff, matches_lineEnd_iff,
      matches_nothing_iff]
    constructor
    · rintro ⟨_, ⟨hstart, rfl⟩, hw, _, ⟨hend, rfl⟩, rfl⟩
      exact ⟨hstart, hw, hend, rfl⟩
    · rintro ⟨hstart, hw, hend, rfl⟩
      exact ⟨i, ⟨hstart, rfl⟩, hw, _, ⟨hend, rfl⟩, rfl⟩
  unfold OccursIn FillsLines
  constructor
  · rintro ⟨i, j, hij, hj, h⟩
    obtain ⟨hstart, ⟨behind, hbehind⟩, hend, rfl⟩ := (hmatch i j).mp h
    -- The parts of the text around the word give its positions as lengths.
    obtain ⟨before, rfl, rfl⟩ : ∃ before, before.length = i ∧ s = before ++ w.toList ++ behind := by
      refine ⟨s.take i, List.length_take_of_le (hij.trans hj), ?_⟩
      rw [List.append_assoc, hbehind, List.take_append_drop]
    rw [← List.length_append, atLineEnd_append] at hend
    rw [List.append_assoc, atLineStart_append] at hstart
    exact ⟨before, behind, rfl, hstart, hend⟩
  · rintro ⟨before, behind, rfl, hbefore, hbehind⟩
    refine ⟨before.length, (before ++ w.toList).length, ?_, ?_, (hmatch _ _).mpr ⟨?_, ?_, ?_, ?_⟩⟩
    · exact (List.prefix_append _ _).length_le
    · exact (List.prefix_append _ _).length_le
    · rwa [List.append_assoc, atLineStart_append]
    · rw [List.append_assoc, List.drop_left]
      exact List.prefix_append _ _
    · rwa [atLineEnd_append]
    · rw [List.length_append]

end Pattern.Core

/-! ## Comparing -/

open Pattern (Core)

/-- A test case with a pattern in place of what it expects. -/
def TestCase.expecting (t : TestCase) (pattern : String) : TestCase :=
  { t with expected := .regex pattern }

namespace Runner

variable {lib : Libraries} {t : TestCase} {output : String} {p : Core .choice}

/-- A pattern that can be looked for decides by its matches. -/
theorem compare_of_fits (hdepth : p.depth ≤ Pattern.maxHeight) (hfits : lib.fits p.pattern = true)
    [Decidable (p.OccursIn output.toList)] :
    compare lib (t.expecting p.pattern) t.exitCode output =
      .ok (if p.OccursIn output.toList then .passed else .patternMismatch p.pattern output) := by
  classical
  have hcompile : Pattern.compile? lib.fits p.pattern = some p.toPiece.regex := by
    rw [Pattern.compile?, if_pos hfits, Core.read?_pattern, if_pos hdepth]
  have hcode : t.exitCode = (t.expecting p.pattern).exitCode := rfl
  rw [compare_of_pattern hcode rfl hcompile]
  simp only [Core.occursIn_toPiece]

/-- A pattern that is nested too deep or too large is refused. -/
theorem compare_of_not_fits (h : Pattern.maxHeight < p.depth ∨ lib.fits p.pattern = false) :
    compare lib (t.expecting p.pattern) t.exitCode output = .error (.badPattern p.pattern) := by
  have hcompile : Pattern.compile? lib.fits p.pattern = none := by
    rw [Pattern.compile?]
    split_ifs with hfits
    · have hdeep : Pattern.maxHeight < p.depth := h.resolve_right (by rw [hfits]; decide)
      rw [Core.read?_pattern, if_neg (Nat.not_le.mpr hdeep)]
    · rfl
  exact compare_of_bad_pattern rfl rfl hcompile

/-- A pattern that can be looked for passes exactly if it occurs. -/
theorem compare_eq_passed_iff_occursIn (hdepth : p.depth ≤ Pattern.maxHeight)
    (hfits : lib.fits p.pattern = true) :
    compare lib (t.expecting p.pattern) t.exitCode output = .ok .passed ↔
      p.OccursIn output.toList := by
  classical
  rw [compare_of_fits hdepth hfits]
  by_cases ho : p.OccursIn output.toList <;> simp [ho]

/-- With the right exit code a core pattern that is not nested too deep, and not too large for what
is built to look for it, passes exactly if it matches a part of the output, and is reported with the
output otherwise; any other core pattern is refused. A word passes exactly if it is a part of the
output, and a word between the signs for the ends of lines exactly if it fills whole lines of it. -/
theorem compare_decides_matches (lib : Libraries) (t : TestCase) (output : String) :
    (∀ p : Core .choice, p.depth ≤ Pattern.maxHeight → lib.fits p.pattern = true →
      (compare lib (t.expecting p.pattern) t.exitCode output = .ok .passed ↔
        p.OccursIn output.toList) ∧
      (¬ p.OccursIn output.toList → compare lib (t.expecting p.pattern) t.exitCode output =
        .ok (.patternMismatch p.pattern output))) ∧
    (∀ p : Core .choice, Pattern.maxHeight < p.depth ∨ lib.fits p.pattern = false →
      compare lib (t.expecting p.pattern) t.exitCode output = .error (.badPattern p.pattern)) ∧
    (∀ w : String, lib.fits (Core.escaped w) = true →
      (compare lib (t.expecting (Core.escaped w)) t.exitCode output = .ok .passed ↔
        w.toList <:+: output.toList)) ∧
    ∀ w : String, lib.fits ("^" ++ Core.escaped w ++ "$") = true →
      (compare lib (t.expecting ("^" ++ Core.escaped w ++ "$")) t.exitCode output = .ok .passed ↔
        Core.FillsLines w.toList output.toList) := by
  classical
  refine ⟨fun p hdepth hfits => ⟨compare_eq_passed_iff_occursIn hdepth hfits, fun ho => ?_⟩,
    fun p hp => compare_of_not_fits hp, fun w hw => ?_, fun w hw => ?_⟩
  · rw [compare_of_fits hdepth hfits, if_neg ho]
  · rw [← Core.pattern_word] at hw ⊢
    rw [compare_eq_passed_iff_occursIn (Core.depth_word_le w) hw, Core.occursIn_word_iff]
  · rw [← Core.pattern_line] at hw ⊢
    rw [compare_eq_passed_iff_occursIn (Core.depth_line_le w) hw, Core.occursIn_line_iff]

end Runner

/-! ## Patterns across lines and beyond the limit -/

namespace Pattern.Core

/-- A star of a star, an end and a beginning of a line with a character between them, and a letter:
the pattern `(a*)*$.^b`. -/
def acrossLines : Core .choice :=
  one (cat (star (group true (one (cat (star (char (.of 'a'))) nothing))))
    (cat lineEnd (cat point (cat lineStart (cat (char (.of 'b')) nothing)))))

example : acrossLines.text = ['(', 'a', '*', ')', '*', '$', '.', '^', 'b'] := by decide

/-- It matches letters at an end of a line and the first letter of the next one. -/
theorem acrossLines_occursIn : acrossLines.OccursIn ['x', 'a', 'a', '\n', 'b', 'y'] := by
  have hinner : (star (char (.of 'a'))).Matches ['x', 'a', 'a', '\n', 'b', 'y'] 1 3 :=
    .more (.char rfl) (.more (.char rfl) (.done 3))
  have houter : (star (group true (one (cat (star (char (.of 'a'))) nothing)))).Matches
      ['x', 'a', 'a', '\n', 'b', 'y'] 1 3 :=
    .more (.group (.one (.cat hinner (.nothing 3)))) (.done 3)
  have hbreak : (cat lineEnd (cat point (cat lineStart (cat (char (.of 'b')) nothing)))).Matches
      ['x', 'a', 'a', '\n', 'b', 'y'] 3 5 :=
    .cat (.lineEnd (.inr rfl)) (.cat (.point (by decide))
      (.cat (.lineStart (.inr rfl)) (.cat (.char rfl) (.nothing 5))))
  exact ⟨1, 5, by decide, by decide, .one (.cat houter hbreak)⟩

/-- It does not match within a line. -/
theorem not_acrossLines_occursIn : ¬ acrossLines.OccursIn ['a', 'a', 'b'] := by
  rintro ⟨i, j, -, -, h⟩
  unfold acrossLines at h
  rw [matches_one_iff, matches_cat_iff] at h
  obtain ⟨k, -, hbreak⟩ := h
  obtain ⟨_, hsign, hrest⟩ := matches_cat_iff.mp hbreak
  obtain ⟨hend, rfl⟩ := matches_lineEnd_iff.mp hsign
  obtain ⟨_, hpoint, -⟩ := matches_cat_iff.mp hrest
  obtain ⟨hk, -⟩ := matches_point_iff.mp hpoint
  -- A line ends before a character only if that is a newline.
  rcases hend with hlength | hnewline
  · omega
  · exact absurd (List.mem_of_getElem? hnewline) (by decide)

/-- A letter in a number of groups. -/
def nested : ℕ → Core .choice
  | 0 => one (cat (char (.of 'a')) nothing)
  | n + 1 => one (cat (group true (nested n)) nothing)

/-- Every group is a level of nesting. -/
theorem depth_nested (n : ℕ) : (nested n).depth = n := by
  induction n with
  | zero => rfl
  | succ n ih =>
    have hgroup : (nested (n + 1)).depth = max ((nested n).depth + 1) 0 := rfl
    rw [hgroup, ih, Nat.max_zero]

/-- The parentheses stand around the letter. -/
theorem text_nested (n : ℕ) :
    (nested n).text = List.replicate n '(' ++ 'a' :: List.replicate n ')' := by
  induction n with
  | zero => rfl
  | succ n ih =>
    have hgroup : (nested (n + 1)).text = ('(' :: ((nested n).text ++ [')'])) ++ [] := rfl
    rw [hgroup, ih, List.append_nil, List.append_assoc, List.cons_append, ← List.replicate_succ']
    rfl

/-- The letter is matched, whatever the number of groups. -/
theorem matches_nested (n : ℕ) : (nested n).Matches ['a'] 0 1 := by
  induction n with
  | zero => exact .one (.cat (.char rfl) (.nothing 1))
  | succ n ih => exact .one (.cat (.group ih) (.nothing 1))

end Pattern.Core

namespace Runner

/-- A pattern across lines, the same within a line, a pattern that is nested too deep, a word and a
word on a line. -/
theorem compare_decides_matches_sample :
    compare plainLibraries (TestCase.expecting {} Core.acrossLines.pattern) 0 "xaa\nby" =
        .ok .passed ∧
      compare plainLibraries (TestCase.expecting {} Core.acrossLines.pattern) 0 "aab" =
        .ok (.patternMismatch Core.acrossLines.pattern "aab") ∧
      compare plainLibraries (TestCase.expecting {} (Core.nested 300).pattern) 0 "aab" =
        .error (.badPattern (Core.nested 300).pattern) ∧
      compare plainLibraries (TestCase.expecting {} (Core.escaped "a.")) 0 "xaa.\nby" =
        .ok .passed ∧
      compare plainLibraries (TestCase.expecting {} ("^" ++ Core.escaped "by" ++ "$")) 0
        "xaa.\nby" = .ok .passed := by
  have hdepth : Core.acrossLines.depth ≤ Pattern.maxHeight := by decide
  have hdeep : Pattern.maxHeight < (Core.nested 300).depth := by
    rw [Core.depth_nested]
    decide
  obtain ⟨hcore, -⟩ := compare_decides_matches plainLibraries {} "xaa\nby"
  obtain ⟨hwithin, hrefused, -⟩ := compare_decides_matches plainLibraries {} "aab"
  obtain ⟨-, -, hword, hline⟩ := compare_decides_matches plainLibraries {} "xaa.\nby"
  refine ⟨(hcore _ hdepth rfl).1.mpr Core.acrossLines_occursIn,
    (hwithin _ hdepth rfl).2 Core.not_acrossLines_occursIn, hrefused _ (.inl hdeep),
    (hword "a." rfl).mpr ?_, (hline "by" rfl).mpr ?_⟩
  · exact ⟨['x', 'a'], ['\n', 'b', 'y'], rfl⟩
  · exact ⟨['x', 'a', 'a', '.', '\n'], [], rfl, .inr rfl, .inl rfl⟩

/-- A letter in 251 groups matches the text of that letter, but as it is nested too deep it is
refused. -/
theorem occurring_pattern_refused :
    (Core.nested 251).text = List.replicate 251 '(' ++ 'a' :: List.replicate 251 ')' ∧
      (Core.nested 251).OccursIn "a".toList ∧
      compare plainLibraries (TestCase.expecting {} (Core.nested 251).pattern) 0 "a" =
        .error (.badPattern (Core.nested 251).pattern) := by
  have hdeep : Pattern.maxHeight < (Core.nested 251).depth := by
    rw [Core.depth_nested]
    decide
  exact ⟨Core.text_nested 251, ⟨0, 1, by decide, by decide, Core.matches_nested 251⟩,
    compare_of_not_fits (.inl hdeep)⟩

end Runner

end BlackBox
