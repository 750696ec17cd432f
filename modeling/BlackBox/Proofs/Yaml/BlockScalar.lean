import BlackBox.Proofs.Text.Lines
import BlackBox.Yaml.Scalar.Block

/-!
# Reading literal block scalars

A text whose only line breaks are newlines, indented line by line, is read back as a literal block
scalar (`read_indented`). Blank lines and the lines between them are read by different loops, which
hand each other the lines that are left: `blanks` passes over the blank lines before a line, and
`body` takes that line and calls `blanks` again. So both are followed together, by induction on the
lines of the text.
-/

namespace BlackBox.Yaml.Block

open BlackBox.Text (indent spaces)

variable {p : Cursor} {c : Char} {level fuel limit widest : ℕ}
  {s line rest breaks acc lead : List Char} {gapBefore : Bool}

/-- A text without line breaks other than newlines. -/
def NewlinesOnly (s : List Char) : Prop := ∀ c ∈ s, isBreak c = true → c = '\n'

/-- A newline is read as one. -/
theorem readBreak?_newline (h : p.rest = '\n' :: rest) :
    p.readBreak? = some ('\n', ⟨rest, p.index + 1, p.line + 1, 0⟩) := by
  rw [Cursor.readBreak?, h]
  rfl

/-- Before any other character of a text with newlines only there is no line break. -/
theorem readBreak?_eq_none (h : p.rest = c :: rest) (hc : isBreak c = false) :
    p.readBreak? = none := by
  have hreturn : c ≠ '\r' := by
    rintro rfl
    exact absurd hc (by decide)
  simp [Cursor.readBreak?, h, hc, hreturn]

/-- At the end of a text there is no line break. -/
theorem readBreak?_nil (h : p.rest = []) : p.readBreak? = none := by
  rw [Cursor.readBreak?, h]

/-- Before a line that is indented, its indentation is skipped, and what follows decides whether the
line is blank. -/
theorem blanks_indented (h : p.rest = spaces level ++ s) (hcol : p.column = 0) (hlevel : 0 < level) :
    blanks level (fuel + 1) p breaks widest =
      match (p.skip level).readBreak? with
      | some (b, r) => blanks level fuel r (b :: breaks) (max widest level)
      | none => some ⟨breaks.reverse, max widest level, p.skip level⟩ := by
  have hwidth : level ≤ (p.rest.takeWhile (· == ' ')).length := by
    rw [h, List.takeWhile_append_of_pos, List.length_append, spaces, List.length_replicate]
    · exact Nat.le_add_right _ _
    · intro c hc
      rw [List.eq_of_mem_replicate hc]
      rfl
  have hmin : min (p.rest.takeWhile (· == ' ')).length (level - p.column) = level := by
    rw [hcol, Nat.sub_zero, Nat.min_eq_right hwidth]
  have hcolumn : (p.skip level).column = level := by rw [Cursor.skip, hcol, Nat.zero_add]
  have hinside : (level == 0 || decide (level < level)) = false := by simp; omega
  rw [blanks, if_neg (Nat.pos_iff_ne_zero.mp hlevel), hmin, hcolumn, hinside]
  rfl

/-- A line with nothing but indentation is passed over. -/
theorem blanks_blank (h : p.rest = spaces level ++ '\n' :: rest) (hcol : p.column = 0)
    (hlevel : 0 < level) :
    blanks level (fuel + 1) p breaks widest =
      blanks level fuel ⟨rest, p.index + level + 1, p.line + 1, 0⟩ ('\n' :: breaks)
        (max widest level) := by
  have hskip : (p.skip level).rest = '\n' :: rest := by
    rw [Cursor.skip, h, spaces, List.drop_left' List.length_replicate]
  rw [blanks_indented h hcol hlevel, readBreak?_newline hskip]
  rfl

/-- A line with a character after its indentation is the one that follows the blank lines. -/
theorem blanks_line (h : p.rest = spaces level ++ c :: rest) (hc : isBreak c = false)
    (hcol : p.column = 0) (hlevel : 0 < level) :
    blanks level (fuel + 1) p breaks widest =
      some ⟨breaks.reverse, max widest level, p.skip level⟩ := by
  have hskip : (p.skip level).rest = c :: rest := by
    rw [Cursor.skip, h, spaces, List.drop_left' List.length_replicate]
  rw [blanks_indented h hcol hlevel, readBreak?_eq_none hskip hc]

/-- At the end of a text there are no further blank lines. -/
theorem blanks_nil (h : p.rest = []) :
    blanks level (fuel + 1) p breaks widest = some ⟨breaks.reverse, max widest p.column, p⟩ := by
  have hstay : p.skip 0 = p := rfl
  have hnone : (if level = 0 then 0 else min 0 (level - p.column)) = 0 := by simp
  rw [blanks, h, List.takeWhile_nil, List.length_nil, hnone, hstay, readBreak?_nil h, h]
  simp

/-- A line that is not blank is taken as it is, and the lines after it are read on. -/
theorem body_line (hrest : p.rest = line ++ '\n' :: rest) (hcol : p.column = level)
    (hline : ∀ c ∈ line, isBreak c = false) :
    body false .clip level limit (fuel + 1) ⟨breaks, widest, p⟩ acc lead gapBefore =
      match blanks level limit ⟨rest, p.index + line.length + 1, p.line + 1, 0⟩ [] 0 with
      | none => none
      | some b => body false .clip level limit fuel b
          (line.reverse ++ (lead ++ breaks).reverse ++ acc) ['\n'] (p.rest.head?.any isGap) := by
  have htake : p.rest.takeWhile (fun c => !isBreak c) = line := by
    rw [hrest, List.takeWhile_append_of_pos fun c hc => by rw [hline c hc]; rfl]
    exact List.append_nil _
  have hskip : (p.skip line.length).rest = '\n' :: rest := by
    rw [Cursor.skip, hrest, List.drop_left]
  have hhere : (p.column == level && !p.rest.isEmpty) = true := by
    rw [hcol, hrest]
    simp
  have hbreak := readBreak?_newline hskip
  rw [body, htake]
  refine (if_pos hhere).trans ?_
  dsimp only
  rw [hbreak]
  rfl

/-- Where no line is indented enough, the scalar ends, and of the line breaks at its end the first
one is kept. -/
theorem body_end (hcol : p.column ≠ level) :
    body false .clip level limit (fuel + 1) ⟨breaks, widest, p⟩ acc lead gapBefore =
      some (acc.reverse ++ lead, p) := by
  have hnot : (p.column == level && !p.rest.isEmpty) = false := by simp [hcol]
  rw [body, hnot, if_neg Bool.false_ne_true, ending, List.reverse_append, List.reverse_reverse]

/-- Where reading a text ends: nothing is left, and the position is at the beginning of a line. -/
def AtEnd (p : Cursor) : Prop := p.rest = [] ∧ p.column = 0

/-- Reads the blank lines at a position and the lines of a block scalar after them. `breaks` are
blank lines before the position, and `lead` is the line break before those. -/
def linesAt (level limit fuel fuel' : ℕ) (p : Cursor) (breaks acc lead : List Char) (widest : ℕ)
    (gapBefore : Bool) : Option (List Char × Cursor) :=
  (blanks level fuel p breaks widest).bind fun b =>
    body false .clip level limit fuel' b acc lead gapBefore

/-- A blank line is kept for the line that follows it. -/
theorem linesAt_blank {fuel' : ℕ} (h : p.rest = spaces level ++ '\n' :: rest) (hcol : p.column = 0)
    (hlevel : 0 < level) : ∃ next, (next.rest = rest ∧ next.column = 0) ∧
    linesAt level limit (fuel + 1) fuel' p breaks acc lead widest gapBefore =
      linesAt level limit fuel fuel' next ('\n' :: breaks) acc lead (max widest level)
        gapBefore := by
  refine ⟨⟨rest, p.index + level + 1, p.line + 1, 0⟩, ⟨rfl, rfl⟩, ?_⟩
  rw [linesAt, linesAt, blanks_blank h hcol hlevel]

/-- A line that is not blank is added with the line breaks before it. -/
theorem linesAt_line {fuel' : ℕ} (h : p.rest = spaces level ++ (line ++ '\n' :: rest))
    (hne : line ≠ []) (hline : ∀ c ∈ line, isBreak c = false) (hcol : p.column = 0)
    (hlevel : 0 < level) : ∃ next gap, (next.rest = rest ∧ next.column = 0) ∧
    linesAt level limit (fuel + 1) (fuel' + 1) p breaks acc lead widest gapBefore =
      linesAt level limit limit fuel' next []
        (line.reverse ++ (lead ++ breaks.reverse).reverse ++ acc) ['\n'] 0 gap := by
  obtain ⟨c, cs, hcs⟩ := List.exists_cons_of_ne_nil hne
  have hfirst : p.rest = spaces level ++ c :: (cs ++ '\n' :: rest) := by rw [h, hcs]; rfl
  have hc : isBreak c = false := hline c (hcs ▸ List.mem_cons_self)
  have hskip : (p.skip level).rest = line ++ '\n' :: rest := by
    rw [Cursor.skip, h, spaces, List.drop_left' List.length_replicate]
  have hcolumn : (p.skip level).column = level := by rw [Cursor.skip, hcol, Nat.zero_add]
  refine ⟨⟨rest, (p.skip level).index + line.length + 1, (p.skip level).line + 1, 0⟩,
    (p.skip level).rest.head?.any isGap, ⟨rfl, rfl⟩, ?_⟩
  rw [linesAt, blanks_line hfirst hc hcol hlevel, Option.bind_some,
    body_line hskip hcolumn hline, linesAt]
  cases blanks level limit
    ⟨rest, (p.skip level).index + line.length + 1, (p.skip level).line + 1, 0⟩ [] 0 with
  | none => rfl
  | some b => rfl

/-- At the end of the text the line break before it ends the scalar. -/
theorem linesAt_end {fuel' : ℕ} (h : AtEnd p) (hlevel : 0 < level) :
    linesAt level limit (fuel + 1) (fuel' + 1) p breaks acc lead widest gapBefore =
      some (acc.reverse ++ lead, p) := by
  have hcol : p.column ≠ level := by
    rw [h.2]
    exact Nat.ne_of_lt hlevel
  rw [linesAt, blanks_nil h.1, Option.bind_some, body_end hcol]

/-- The lines of a text are read back: its blank lines, and with each other line those after it. -/
theorem linesAt_indented (hs : NewlinesOnly s) (hlast : s.getLast? ≠ some '\n') (hne : s ≠ [])
    (hrest : p.rest = indent level s ++ ['\n']) (hcol : p.column = 0) (hlevel : 0 < level)
    {fuel' : ℕ} (hfuel : s.length < fuel) (hfuel' : s.length < fuel') (hlimit : s.length < limit) :
    ∃ q, AtEnd q ∧ linesAt level limit fuel fuel' p breaks acc lead widest gapBefore =
      some (acc.reverse ++ lead ++ breaks.reverse ++ s ++ ['\n'], q) := by
  have hbreaks : ∀ line, '\n' ∉ line → NewlinesOnly line → ∀ c ∈ line, isBreak c = false :=
    fun line hline hs c hc => Bool.eq_false_iff.mpr fun hbreak => hline (hs c hc hbreak ▸ hc)
  induction s using Text.line_induction
    generalizing p breaks widest acc lead gapBefore fuel fuel' with
  | last line hline =>
    -- One round takes the line, and the next one sees the end of the text.
    have hlength := List.length_pos_iff.mpr hne
    obtain ⟨fuel, rfl⟩ : ∃ f, fuel = f + 1 := ⟨fuel - 1, by omega⟩
    obtain ⟨fuel', rfl⟩ : ∃ f, fuel' = f + 1 + 1 := ⟨fuel' - 2, by omega⟩
    obtain ⟨limit, rfl⟩ : ∃ l, limit = l + 1 := ⟨limit - 1, by omega⟩
    have htext : p.rest = spaces level ++ (line ++ '\n' :: []) := by
      rw [hrest, Text.indent_of_last hline hne, List.append_assoc]
    obtain ⟨q, gap, hend, hstep⟩ := linesAt_line htext hne (hbreaks line hline hs) hcol hlevel
    refine ⟨q, hend, ?_⟩
    rw [hstep, linesAt_end hend hlevel]
    simp
  | more line rest hline ih =>
    obtain ⟨hsline, hsrest⟩ : NewlinesOnly line ∧ NewlinesOnly rest :=
      ⟨fun c hc => hs c (List.mem_append_left _ hc),
        fun c hc => hs c (List.mem_append_right _ (List.mem_cons_of_mem _ hc))⟩
    have hrest_ne : rest ≠ [] := by
      rintro rfl
      exact hlast List.getLast?_concat
    rw [Text.getLast?_line, if_neg hrest_ne] at hlast
    have hreturn : '\r' ∉ line := fun hmem => absurd (hsline _ hmem rfl) (by decide)
    rw [Text.indent_line hline, Text.dropEnd_of_not_mem hreturn] at hrest
    rw [List.length_append, List.length_cons] at hfuel hfuel' hlimit
    obtain ⟨fuel, rfl⟩ : ∃ f, fuel = f + 1 := ⟨fuel - 1, by omega⟩
    -- A blank line takes fuel of the one loop, and any other line that of the other.
    by_cases hblank : line = []
    · subst hblank
      have htext : p.rest = spaces level ++ '\n' :: (indent level rest ++ ['\n']) := by
        rw [hrest]
        simp
      obtain ⟨next, ⟨hnext, hnext_col⟩, hstep⟩ := linesAt_blank htext hcol hlevel
      have hleft : rest.length < fuel := by omega
      have hleft' : rest.length < fuel' := by omega
      obtain ⟨q, hend, hread⟩ := ih hsrest hlast hrest_ne hnext hnext_col hleft hleft' (by omega)
      refine ⟨q, hend, hstep.trans (hread.trans ?_)⟩
      simp
    · obtain ⟨fuel', rfl⟩ : ∃ f, fuel' = f + 1 := ⟨fuel' - 1, by omega⟩
      have htext : p.rest = spaces level ++ (line ++ '\n' :: (indent level rest ++ ['\n'])) := by
        rw [hrest]
        simp
      obtain ⟨next, gap, ⟨hnext, hnext_col⟩, hstep⟩ :=
        linesAt_line htext hblank (hbreaks line hline hsline) hcol hlevel
      have hleft : rest.length < limit := by omega
      have hleft' : rest.length < fuel' := by omega
      obtain ⟨q, hend, hread⟩ := ih hsrest hlast hrest_ne hnext hnext_col hleft hleft' hleft
      refine ⟨q, hend, hstep.trans (hread.trans ?_)⟩
      simp

/-- A text is read back from a literal block scalar that says how far it is indented. -/
theorem read_indented (column : ℕ) (hs : NewlinesOnly s) (hlast : s.getLast? ≠ some '\n')
    (hne : s ≠ []) (hrest : p.rest = '|' :: '2' :: '\n' :: (indent (column + 2) s ++ ['\n']))
    (hlimit : s.length < limit) :
    ∃ q, AtEnd q ∧ read false column limit p = some (s ++ ['\n'], q) := by
  have hheader : header? (p.skip 1).rest = some (⟨.clip, 2⟩, 1) := by
    rw [Cursor.skip, hrest]
    rfl
  obtain ⟨start, hstart, htext, hcol⟩ : ∃ start, restOfLine? ((p.skip 1).skip 1) = some start ∧
      start.rest = indent (column + 2) s ++ ['\n'] ∧ start.column = 0 := by
    have hnewline : ((p.skip 1).skip 1).rest = '\n' :: (indent (column + 2) s ++ ['\n']) := by
      rw [Cursor.skip, Cursor.skip, hrest]
      rfl
    have hgaps : ((p.skip 1).skip 1).skipWhile isGap = (p.skip 1).skip 1 := by
      rw [Cursor.skipWhile, hnewline]
      rfl
    have hcomment : (((p.skip 1).skip 1).rest.head? == some '#') = false := by
      rw [hnewline]
      rfl
    have hline : restOfLine? ((p.skip 1).skip 1) = some ((p.skip 1).skip 1).skipBreak := by
      rw [restOfLine?, hgaps, hcomment, if_neg Bool.false_ne_true, hnewline]
      rfl
    rw [hline, Cursor.skipBreak, readBreak?_newline hnewline]
    exact ⟨_, rfl, rfl, rfl⟩
  have hgiven : (if (2 : ℕ) = 0 then 0 else (max (column : Int) 0).toNat + 2) = column + 2 := by
    rw [if_neg (by decide), Int.max_eq_left (Int.natCast_nonneg _), Int.toNat_natCast]
  obtain ⟨q, hend, hread⟩ : ∃ q, AtEnd q ∧
      linesAt (column + 2) limit limit limit start [] [] [] 0 false = some (s ++ ['\n'], q) :=
    linesAt_indented hs hlast hne htext hcol (Nat.succ_pos _) hlimit hlimit hlimit
  refine ⟨q, hend, ?_⟩
  rw [read, hheader]
  dsimp only
  rw [hstart]
  dsimp only
  rw [hgiven, ← hread, linesAt]
  cases blanks (column + 2) limit start [] 0 with
  | none => rfl
  | some b => rfl

end BlackBox.Yaml.Block
