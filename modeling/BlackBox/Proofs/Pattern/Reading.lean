import BlackBox.Proofs.Pattern.Pieces

/-!
# Core patterns as they are read

A core pattern is read from left to right, and `after` is the state that it leaves behind, with the
groups around it as they were. `leads_text` says that the text of a pattern leads to that state; the
induction is on the tree of the pattern. `read?_pattern` is the result for a pattern as a whole: the
expression of its piece, unless it is nested too deep.
-/

namespace BlackBox.Pattern

namespace Parse

variable {s s' s'' : Parse} {t u : List Char} {c : Char}

/-! ## Reading a part of a text -/

/-- A part of a text leads from one state to another, whatever follows it. A question mark must not
follow, as it belongs to a star before it. -/
def Leads (s : Parse) (t : List Char) (s' : Parse) : Prop :=
  ∃ n ≤ t.length, ∀ fuel rest, rest.head? ≠ some '?' →
    run (n + fuel) s (t ++ rest) = run fuel s' rest

/-- Two texts that do not begin with a question mark do not when they are joined. -/
theorem head?_append_ne (ht : t.head? ≠ some '?') (hu : u.head? ≠ some '?') :
    (t ++ u).head? ≠ some '?' := by
  cases t with
  | nil => exact hu
  | cons d t => exact ht

/-- No text leads nowhere else. -/
theorem Leads.nil (s : Parse) : Leads s [] s := by
  refine ⟨0, Nat.le_refl 0, fun fuel rest _ => ?_⟩
  rw [Nat.zero_add]
  rfl

/-- A single step with no flags leads to where it goes. -/
theorem Leads.step (hflags : s.flags = {})
    (h : ∀ rest, rest.head? ≠ some '?' → s.step? c (t ++ rest) = some (s', rest)) :
    Leads s (c :: t) s' := by
  refine ⟨1, Nat.le_add_left 1 _, fun fuel rest hrest => ?_⟩
  have hskip : s.flags.skip (c :: t ++ rest) = c :: (t ++ rest) := by
    rw [hflags]
    rfl
  rw [Nat.add_comm, run, hskip]
  dsimp only
  rw [h rest hrest]

/-- Two parts lead one after the other. -/
theorem Leads.append (ht : Leads s t s') (hu : Leads s' u s'') (hhead : u.head? ≠ some '?') :
    Leads s (t ++ u) s'' := by
  obtain ⟨n, hn, ht⟩ := ht
  obtain ⟨m, hm, hu⟩ := hu
  refine ⟨n + m, ?_, fun fuel rest hrest => ?_⟩
  · rw [List.length_append]
    exact Nat.add_le_add hn hm
  · have hnext : (u ++ rest).head? ≠ some '?' := head?_append_ne hhead hrest
    rw [Nat.add_assoc, List.append_assoc, ht _ _ hnext]
    exact hu fuel rest hrest

/-- The fuel for a whole text is enough to read it. -/
theorem Leads.run_eq (h : Leads s t s') (hflags : s'.flags = {}) (houter : s'.outer = []) :
    run (t.length + 1) s t = some s'.body := by
  obtain ⟨n, hn, h⟩ := h
  -- No step takes less than a character, so that there is fuel left for the end of the text.
  have hfuel : t.length + 1 = n + (t.length - n + 1) := by omega
  have hread := h (t.length - n + 1) [] (by simp)
  rw [List.append_nil, ← hfuel] at hread
  rw [hread, run, hflags, houter]
  rfl

/-! ## Steps -/

/-- A character with no meaning of its own is a piece. -/
theorem step?_char (hflags : s.flags = {}) (hc : c ∉ signs) (rest : List Char) :
    s.step? c rest = some (s.push (Piece.ofChar {} c), rest) := by
  simp only [signs, List.mem_cons, List.not_mem_nil, or_false, not_or] at hc
  obtain ⟨hback, hpoint, hplus, hstar, hquestion, hopen, hclose, hbar, hclass, hcount, hstart,
    hend⟩ := hc
  unfold step?
  rw [if_neg hopen, if_neg hclose, if_neg hbar, if_neg hclass, if_neg hquestion, if_neg hstar,
    if_neg hplus, if_neg hcount, if_neg hback, if_neg hpoint, if_neg hstart, if_neg hend, hflags]

/-- A backslash and a character that stands for itself after it are a piece. -/
theorem step?_escape (hflags : s.flags = {}) (hc : Escape.isLiteral c = true) (rest : List Char) :
    s.step? '\\' (c :: rest) = some (s.push (Piece.ofChar {} c), rest) := by
  -- The characters that are looked for before it are letters, and no letter stands for itself.
  have hletter : ∀ d : Char, d.isAlphanum = true → c ≠ d := by
    rintro d hd rfl
    simp [Escape.isLiteral, hd] at hc
  have hread : Escape.read? {} (c :: rest) = some (.char c false, rest) := by
    rw [Escape.read?, if_neg (hletter 'x' (by decide)), if_neg (hletter 'u' (by decide)),
      if_neg (hletter 'U' (by decide)),
      if_neg (not_or.mpr ⟨hletter 'p' (by decide), hletter 'P' (by decide)⟩), if_pos hc]
  have hstep : s.step? '\\' (c :: rest) = (Escape.read? s.flags (c :: rest)).bind fun r =>
      (Piece.ofAtom? s.flags r.1).bind fun p => some (s.push p, r.2) := rfl
  rw [hstep, hflags, hread]
  rfl

/-- A parenthesis that no question mark follows opens a group that can be referred to. -/
theorem step?_open (hflags : s.flags = {}) {rest : List Char} (hrest : rest.head? ≠ some '?') :
    s.step? '(' rest = some (s.openGroup {}, rest) := by
  have hskip : s.flags.skip rest = rest := by
    rw [hflags]
    rfl
  have hstep : s.step? '(' rest = s.open? rest := rfl
  rw [hstep]
  unfold open?
  rw [hskip]
  -- All other readings of a parenthesis begin with a question mark.
  split
  case h_8 => rw [hflags]
  all_goals exact absurd rfl hrest

/-- A parenthesis with a question mark and a colon after it opens a group that cannot be referred
to. -/
theorem step?_open_plain (hflags : s.flags = {}) (rest : List Char) :
    s.step? '(' ('?' :: ':' :: rest) = some (s.openGroup {}, rest) := by
  have hstep : s.step? '(' ('?' :: ':' :: rest) = s.open? ('?' :: ':' :: rest) := rfl
  rw [hstep]
  unfold open?
  rw [hflags]
  rfl

/-- A star repeats the piece before it. -/
theorem step?_star {q : Piece} (hq : q.repeatable = true) {rest : List Char}
    (hrest : rest.head? ≠ some '?') :
    (s.push q).step? '*' rest = some (s.push q.starred, rest) := by
  have hstep : (s.push q).step? '*' rest =
      ((s.push q).repeatLast? 0 none).map fun s => (s, dropLazy rest) := rfl
  have hrepeat : (s.push q).repeatLast? 0 none =
      (q.repeated? 0 none).map fun r => s.push r := rfl
  have hlazy : dropLazy rest = rest := if_neg hrest
  rw [hstep, hrepeat, Piece.repeated?_star hq, hlazy]
  rfl

/-- A closing parenthesis adds the group to what is around it, which is as it was. -/
theorem step?_close {flags : Flags} {ps : List Piece}
    (h : s'.branch = { s.openGroup flags with branches := ps }) (rest : List Char) :
    s'.step? ')' rest = some (s.push (Piece.choice ps.reverse).group, rest) := by
  have houter : s'.outer = ⟨s.flags, s.pieces, s.branches⟩ :: s.outer :=
    congrArg Parse.outer h
  have hnames : s'.names = s.names := (congrArg Parse.names h :)
  have hbody : s'.body = Piece.choice ps.reverse := by
    unfold body
    rw [h]
  have hstep : s'.step? ')' rest = s'.closeGroup?.map fun s => (s, rest) := rfl
  rw [hstep]
  unfold closeGroup?
  rw [houter]
  dsimp only
  rw [hbody, hnames]
  rfl

end Parse

namespace Core

open Parse (Leads)

variable {l : Level} {s : Parse}

/-- A text of a pattern does not begin with a question mark. -/
theorem head?_text (p : Core l) : p.text.head? ≠ some '?' := by
  induction p with
  | char c =>
    obtain ⟨c, escaped, hvalid⟩ := c
    cases escaped with
    | true => exact fun h => absurd (Option.some.inj h) (by decide)
    | false =>
      intro h
      have hc : c = '?' := Option.some.inj h
      subst hc
      exact hvalid (by decide)
  | point | lineStart | lineEnd | group | nothing => simp [text]
  | star p ih => exact Parse.head?_append_ne ih (by decide)
  | cat p b ihp ihb => exact Parse.head?_append_ne ihp ihb
  | one b ih => exact ih
  | alt b c ihb => exact Parse.head?_append_ne ihb (by simp)

/-! ## The state behind a pattern -/

/-- The state that a pattern leaves behind. -/
def after : {l : Level} → Core l → Parse → Parse
  | _, nothing, s => s
  | _, cat p b, s => b.after (p.after s)
  | _, one b, s => b.after s
  | _, alt b c, s => c.after (b.after s).branch
  | _, p, s => s.push p.toPiece

/-- A piece is added to the current branch. -/
theorem after_piece (p : Core .piece) (s : Parse) : p.after s = s.push p.toPiece := by
  cases p <;> rfl

/-- The pieces of a branch are added to the current branch. -/
theorem after_branch : ∀ (b : Core .branch) (s : Parse),
    b.after s = { s with pieces := b.pieces.reverse ++ s.pieces }
  | nothing, _ => rfl
  | cat p b, s => by
    -- The pieces are kept in reverse, so that the first one of the branch comes last.
    have hrest := after_branch b (p.after s)
    unfold after pieces
    rw [hrest, after_piece, List.reverse_cons, List.append_assoc]
    rfl

/-- The branches of a group are there when it is complete. -/
theorem branch_after : ∀ (c : Core .choice) (s : Parse), s.pieces = [] →
    (c.after s).branch = { s with pieces := [], branches := c.pieces.reverse ++ s.branches }
  | one b, s, hs => by
    unfold after pieces Parse.branch
    rw [after_branch, hs, List.append_nil, List.reverse_reverse]
    rfl
  | alt b c, s, hs => by
    have hrest := branch_after c (b.after s).branch rfl
    unfold after pieces
    rw [hrest, after_branch]
    unfold Parse.branch
    rw [hs, List.append_nil, List.reverse_reverse, List.reverse_cons, List.append_assoc]
    rfl

/-- The flags remain. -/
theorem flags_after (p : Core l) (s : Parse) : (p.after s).flags = s.flags := by
  induction p generalizing s with
  | cat p b ihp ihb => exact (ihb _).trans (ihp s)
  | one b ih => exact ih s
  | alt b c ihb ihc => exact (ihc _).trans (ihb s)
  | _ => rfl

/-- What can be repeated is a piece that can be repeated. -/
theorem repeatable_toPiece (p : Core .piece) : p.toPiece.repeatable = true := by
  cases p <;> rfl

/-- An opening of a group leads into the group. -/
theorem leads_open (captured : Bool) (hflags : s.flags = {}) :
    Leads s ('(' :: if captured then [] else ['?', ':']) (s.openGroup {}) := by
  cases captured with
  | true => exact Leads.step hflags fun rest hrest => Parse.step?_open hflags hrest
  | false => exact Leads.step hflags fun rest _ => Parse.step?_open_plain hflags rest

/-- A closing parenthesis leads from the end of a group to what is around it. -/
theorem leads_close (captured : Bool) (body : Core .choice) (s : Parse) :
    Leads (body.after (s.openGroup {})) [')'] ((group captured body).after s) := by
  refine Leads.step (flags_after body _) fun rest _ => ?_
  have hbranch := branch_after body (s.openGroup {}) rfl
  have hstep := Parse.step?_close hbranch rest
  rw [List.reverse_append, List.reverse_reverse] at hstep
  exact hstep

/-- A star leads from a piece to its repetition. -/
theorem leads_star (p : Core .piece) (hflags : s.flags = {}) :
    Leads (p.after s) ['*'] ((star p).after s) := by
  rw [after_piece]
  exact Leads.step hflags fun rest hrest => Parse.step?_star (repeatable_toPiece p) hrest

/-- The text of a pattern leads to the state that it leaves behind. -/
theorem leads_text (p : Core l) (hflags : s.flags = {}) : Leads s p.text (p.after s) := by
  induction p generalizing s with
  | char c =>
    obtain ⟨c, escaped, hvalid⟩ := c
    cases escaped with
    | true => exact Leads.step hflags fun rest _ => Parse.step?_escape hflags hvalid rest
    | false => exact Leads.step hflags fun rest _ => Parse.step?_char hflags hvalid rest
  | point =>
    refine Leads.step hflags fun rest _ => ?_
    have hstep : s.step? '.' rest = (Piece.ofPoint? s.flags).map fun p => (s.push p, rest) := rfl
    rw [List.nil_append, hstep, hflags]
    rfl
  | lineStart =>
    refine Leads.step hflags fun rest _ => ?_
    have hstep : s.step? '^' rest = some (s.push (Piece.ofCaret s.flags), rest) := rfl
    rw [List.nil_append, hstep, hflags]
    rfl
  | lineEnd =>
    refine Leads.step hflags fun rest _ => ?_
    have hstep : s.step? '$' rest = some (s.push (Piece.ofDollar s.flags), rest) := rfl
    rw [List.nil_append, hstep, hflags]
    rfl
  | group captured body ih =>
    -- The body is read from the state inside the group, whatever is around it.
    have hopen := leads_open captured hflags
    have hbody := ih (s := s.openGroup {}) rfl
    have hclose := leads_close captured body s
    exact (hopen.append hbody (head?_text body)).append hclose (by decide)
  | star p ih => exact (ih hflags).append (leads_star p hflags) (by decide)
  | nothing => exact Leads.nil s
  | cat p b ihp ihb =>
    exact (ihp hflags).append (ihb ((flags_after p s).trans hflags)) (head?_text b)
  | one b ih => exact ih hflags
  | alt b c ihb ihc =>
    -- The bar ends the first branch, and the others are read from the state behind it.
    have hbar : Leads (b.after s) ['|'] (b.after s).branch :=
      Leads.step ((flags_after b s).trans hflags) fun rest _ => rfl
    have hrest := hbar.append (ihc ((flags_after b s).trans hflags)) (head?_text c)
    exact (ihb hflags).append hrest (by simp)

/-! ## Whole patterns -/

/-- A core pattern is read as the expression of its piece, unless it is nested too deep. -/
theorem read?_pattern (p : Core .choice) :
    read? p.pattern = if p.depth ≤ maxHeight then some p.toPiece.regex else none := by
  have hread : read? p.pattern = (Parse.run (p.text.length + 1) {} p.text).bind fun q =>
      if q.height ≤ maxHeight then some q.regex else none := by
    unfold read? pattern
    rw [String.toList_ofList]
    rfl
  have hafter : (p.after {}).branch = { branches := p.pieces.reverse ++ [] } :=
    branch_after p {} rfl
  have hbody : (p.after {}).body = p.toPiece := by
    unfold Parse.body
    rw [hafter, List.append_nil, List.reverse_reverse]
    rfl
  have hrun := (leads_text (s := {}) p rfl).run_eq (flags_after p {}) (congrArg Parse.outer hafter)
  rw [hread, hrun, Option.bind_some, hbody, height_toPiece]

end Core

end BlackBox.Pattern
