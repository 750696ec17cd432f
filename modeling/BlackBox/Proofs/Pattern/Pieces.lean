import BlackBox.Proofs.Pattern.Core
import BlackBox.Proofs.Pattern.Search

/-!
# Core patterns as expressions

Every core pattern stands for some pieces, which are joined to one where the pattern is complete
(`toPiece`). The joined piece is as high as the pattern is deep (`height_toPiece`), and its
expression matches what the pattern does (`matches_toPiece`).
-/

namespace BlackBox.Pattern

open Unicode (CharSet)

namespace Regex

variable {text : Array Char} {i j : ℕ}

/-- The empty expression matches nothing. -/
theorem matches_empty_iff : Matches text empty i j ↔ j = i := by
  constructor
  · intro h
    cases h with
    | empty => rfl
  · rintro rfl
    exact .empty j

/-- A set matches any one of its characters. -/
theorem matches_set_iff {s : CharSet} :
    Matches text (set s) i j ↔ ∃ c, text[i]? = some c ∧ s.contains c = true ∧ j = i + 1 := by
  constructor
  · intro h
    cases h with
    | set hc hs => exact ⟨_, hc, hs, rfl⟩
  · rintro ⟨c, hc, hs, rfl⟩
    exact .set hc hs

/-- A condition matches nothing where it holds. -/
theorem matches_look_iff {l : Look} :
    Matches text (look l) i j ↔ holdsAt text l i = true ∧ j = i := by
  constructor
  · intro h
    cases h with
    | look hl => exact ⟨hl, rfl⟩
  · rintro ⟨hl, rfl⟩
    exact .look hl

/-- Two expressions match one after the other. -/
theorem matches_cat_iff {a b : Regex} :
    Matches text (cat a b) i j ↔ ∃ k, Matches text a i k ∧ Matches text b k j := by
  constructor
  · intro h
    cases h with
    | cat ha hb => exact ⟨_, ha, hb⟩
  · rintro ⟨k, ha, hb⟩
    exact .cat ha hb

/-- Either of two expressions matches. -/
theorem matches_alt_iff {a b : Regex} :
    Matches text (alt a b) i j ↔ Matches text a i j ∨ Matches text b i j := by
  constructor
  · intro h
    cases h with
    | altLeft ha => exact .inl ha
    | altRight hb => exact .inr hb
  · rintro (ha | hb)
    · exact .altLeft ha
    · exact .altRight hb

end Regex

namespace Piece

variable {q : Piece} {ps : List Piece} {text : Array Char} {i j k : ℕ}

/-! ## Joined pieces -/

/-- The greatest height of some pieces is that of the first or of the others. -/
theorem heights_cons (q : Piece) (ps : List Piece) :
    heights (q :: ps) = max q.height (heights ps) := by
  unfold heights
  rw [List.map_cons, List.foldl_cons, Nat.max_comm, List.foldl_assoc]

/-- Joining pieces one after another is a level of nesting. -/
theorem height_sequence (ps : List Piece) :
    (sequence ps).height = Core.joinDepth ps.length (heights ps) := by
  match ps with
  | [] => rfl
  | [q] => exact (Nat.zero_max q.height).symm
  | q :: r :: rest => exact (if_pos (by simp)).symm

/-- Joining branches is a level of nesting. -/
theorem height_choice (ps : List Piece) :
    (choice ps).height = Core.joinDepth ps.length (heights ps) := by
  match ps with
  | [] => rfl
  | [q] => exact (Nat.zero_max q.height).symm
  | q :: r :: rest => exact (if_pos (by simp)).symm

/-- Expressions are joined from right to left. -/
theorem joinRegex_cons (op : Regex → Regex → Regex) (q r : Piece) (ps : List Piece) :
    joinRegex op q (r :: ps) = op q.regex (joinRegex op r ps) := by
  cases ps with
  | nil => rfl
  | cons p ps =>
    have hlast : (p :: ps).getLast? = some ((p :: ps).getLast (List.cons_ne_nil p ps)) :=
      List.getLast?_eq_some_getLast (List.cons_ne_nil p ps)
    unfold joinRegex
    dsimp only
    rw [List.getLast?_cons_cons, List.dropLast_cons_cons, hlast]
    rfl

/-- Several pieces are the first of them and then the others. -/
theorem regex_sequence (q r : Piece) (ps : List Piece) :
    (sequence (q :: r :: ps)).regex = .cat q.regex (sequence (r :: ps)).regex := by
  have hrest : (sequence (r :: ps)).regex = joinRegex .cat r ps := by
    cases ps <;> rfl
  rw [hrest]
  exact joinRegex_cons .cat q r ps

/-- Several branches are the first of them or one of the others. -/
theorem regex_choice (q r : Piece) (ps : List Piece) :
    (choice (q :: r :: ps)).regex = .alt q.regex (choice (r :: ps)).regex := by
  have hrest : (choice (r :: ps)).regex = joinRegex .alt r ps := by
    cases ps <;> rfl
  rw [hrest]
  exact joinRegex_cons .alt q r ps

/-- Pieces one after another match the first of them and then the others. -/
theorem matches_sequence_cons :
    Regex.Matches text (sequence (q :: ps)).regex i k ↔
      ∃ j, Regex.Matches text q.regex i j ∧ Regex.Matches text (sequence ps).regex j k := by
  cases ps with
  | nil =>
    constructor
    · exact fun h => ⟨k, h, .empty k⟩
    · rintro ⟨j, hq, hempty⟩
      obtain rfl := Regex.matches_empty_iff.mp hempty
      exact hq
  | cons r ps =>
    rw [regex_sequence]
    exact Regex.matches_cat_iff

/-- Branches match the first of them or one of the others. -/
theorem matches_choice_cons (hps : ps ≠ []) :
    Regex.Matches text (choice (q :: ps)).regex i k ↔
      Regex.Matches text q.regex i k ∨ Regex.Matches text (choice ps).regex i k := by
  -- No branches at all match like an empty one, which is not what none of them would do.
  obtain ⟨r, rest, rfl⟩ := List.exists_cons_of_ne_nil hps
  rw [regex_choice]
  exact Regex.matches_alt_iff

/-! ## Stars -/

/-- A piece any number of times. -/
def starred (q : Piece) : Piece := { regex := repetition q.regex 0 none, height := q.height + 1 }

/-- A star repeats the piece. -/
theorem repeated?_star (h : q.repeatable = true) : q.repeated? 0 none = some q.starred := by
  unfold repeated?
  rw [if_neg (by simp [h])]
  rfl

/-- The star of a piece matches the chains of its matches. -/
theorem matches_starred :
    Regex.Matches text q.starred.regex i j ↔
      Relation.ReflTransGen (Regex.Matches text q.regex) i j := by
  have hregex : q.starred.regex = .cat (.times 0 q.regex) (.star q.regex) := rfl
  rw [hregex, Regex.matches_cat_iff]
  simp only [Regex.matches_times_zero_iff, Regex.matches_star_iff, exists_eq_left']

end Piece

namespace Core

variable {l : Level}

/-- The pieces that a pattern is read as. -/
def pieces : {l : Level} → Core l → List Piece
  | _, char c => [Piece.ofChar {} c.char]
  | _, point => [Piece.ofSet .all]
  | _, lineStart => [Piece.ofLook .lineStart]
  | _, lineEnd => [Piece.ofLook .lineEnd]
  | _, group _ body => [(Piece.choice body.pieces).group]
  | _, star p => [(Piece.sequence p.pieces).starred]
  | _, nothing => []
  | _, cat p b => Piece.sequence p.pieces :: b.pieces
  | _, one b => [Piece.sequence b.pieces]
  | _, alt b c => Piece.sequence b.pieces :: c.pieces

/-- There are as many pieces as parts. -/
theorem length_pieces (p : Core l) : p.pieces.length = p.width := by
  induction p with
  | cat _ _ _ ih | alt _ _ _ ih =>
    unfold pieces width
    rw [List.length_cons, ih]
  | _ => rfl

/-- What can be repeated has a single part. -/
theorem width_piece (p : Core .piece) : p.width = 1 := by
  cases p <;> rfl

/-- The pieces are as high as the parts are deep. -/
theorem heights_pieces (p : Core l) : Piece.heights p.pieces = p.partDepth := by
  have hone : ∀ q : Piece, Piece.heights [q] = q.height := by
    intro q
    rw [Piece.heights_cons]
    exact Nat.max_zero q.height
  -- A piece has one part, so that joining its parts adds no level.
  have hpiece : ∀ p : Core .piece, Piece.heights p.pieces = p.partDepth →
      (Piece.sequence p.pieces).height = p.partDepth := by
    intro p h
    rw [Piece.height_sequence, length_pieces, width_piece, h]
    exact if_neg (by decide)
  induction p with
  | char | point | lineStart | lineEnd | nothing => rfl
  | group captured body ih =>
    unfold pieces partDepth
    rw [hone, ← ih, ← length_pieces, ← Piece.height_choice]
    rfl
  | star p ih =>
    unfold pieces partDepth
    rw [hone, ← hpiece p ih]
    rfl
  | cat p b ihp ihb =>
    unfold pieces partDepth
    rw [Piece.heights_cons, hpiece p ihp, ihb]
  | one b ih =>
    unfold pieces partDepth
    rw [hone, Piece.height_sequence, length_pieces, ih]
  | alt b c ihb ihc =>
    unfold pieces partDepth
    rw [Piece.heights_cons, Piece.height_sequence, length_pieces, ihb, ihc]

/-- The piece that a whole pattern is read as. -/
def toPiece (p : Core l) : Piece :=
  match l with
  | .choice => Piece.choice p.pieces
  | .piece | .branch => Piece.sequence p.pieces

/-- The piece of a pattern is as high as the pattern is deep. -/
theorem height_toPiece (p : Core .choice) : p.toPiece.height = p.depth := by
  unfold depth
  rw [← heights_pieces, ← length_pieces]
  exact Piece.height_choice p.pieces

/-! ## Matches -/

variable {s : List Char} {i j : ℕ}

/-- The set of all characters has every character. -/
theorem contains_all (c : Char) : CharSet.all.contains c = true := by
  have hc : c.toNat ≤ 0x10FFFF := by
    have hvalid : c.toNat.isValidChar := c.valid
    unfold Nat.isValidChar at hvalid
    omega
  simp [CharSet.all, CharSet.contains, CharSet.containsCode, Unicode.Ranges.contains, hc]

/-- A set with one member matches this character. -/
theorem matches_single_iff {c : Char} :
    Regex.Matches s.toArray (.set (CharSet.single c)) i j ↔ s[i]? = some c ∧ j = i + 1 := by
  rw [Regex.matches_set_iff, List.getElem?_toArray]
  constructor
  · rintro ⟨d, hd, hc, hij⟩
    rw [CharSet.contains_single, decide_eq_true_eq] at hc
    exact ⟨hc ▸ hd, hij⟩
  · rintro ⟨hc, hij⟩
    refine ⟨c, hc, ?_, hij⟩
    rw [CharSet.contains_single, decide_eq_true_eq]

/-- The set of all characters matches each of them. -/
theorem matches_all_iff :
    Regex.Matches s.toArray (.set CharSet.all) i j ↔ i < s.length ∧ j = i + 1 := by
  rw [Regex.matches_set_iff, List.getElem?_toArray]
  constructor
  · rintro ⟨d, hd, -, hij⟩
    obtain ⟨hi, -⟩ := List.getElem?_eq_some_iff.mp hd
    exact ⟨hi, hij⟩
  · rintro ⟨hi, hij⟩
    exact ⟨s[i], List.getElem?_eq_getElem hi, contains_all s[i], hij⟩

/-- The condition for the beginning of a line holds where a line begins. -/
theorem holdsAt_lineStart (hi : i ≤ s.length) :
    Regex.holdsAt s.toArray .lineStart i = true ↔ AtLineStart s i := by
  unfold Regex.holdsAt Regex.charBefore Look.holds AtLineStart
  rw [Bool.or_eq_true, beq_iff_eq, List.getElem?_toArray]
  by_cases hzero : i = 0
  · simp [hzero]
  · -- After the beginning there is a character before the position.
    have hsome : s[i - 1]?.isNone = false := by
      rw [List.getElem?_eq_getElem (by omega)]
      rfl
    simp [hzero, hsome]

/-- The condition for the end of a line holds where a line ends. -/
theorem holdsAt_lineEnd (hi : i ≤ s.length) :
    Regex.holdsAt s.toArray .lineEnd i = true ↔ AtLineEnd s i := by
  have hnone : s[i]?.isNone = true ↔ i = s.length := by
    rw [Option.isNone_iff_eq_none, List.getElem?_eq_none_iff]
    exact ⟨fun h => Nat.le_antisymm hi h, fun h => h.ge⟩
  unfold Regex.holdsAt Look.holds AtLineEnd
  rw [Bool.or_eq_true, beq_iff_eq, List.getElem?_toArray, hnone]

/-- Chains of steps up to a position are chains of other steps that are the same up to there. -/
theorem chain_mono {R S : ℕ → ℕ → Prop} {n : ℕ} (hle : ∀ i j, R i j → i ≤ j)
    (hRS : ∀ i j, j ≤ n → R i j → S i j) (hj : j ≤ n) (h : Relation.ReflTransGen R i j) :
    Relation.ReflTransGen S i j := by
  induction h with
  | refl => exact .refl
  | tail _ hlast ih => exact (ih ((hle _ _ hlast).trans hj)).tail (hRS _ _ hj hlast)

/-- The expression that a pattern is read as matches what the pattern does. -/
theorem matches_toPiece (p : Core l) (hj : j ≤ s.length) :
    Regex.Matches s.toArray p.toPiece.regex i j ↔ p.Matches s i j := by
  induction p generalizing i j with
  | char c =>
    have hset : Regex.Matches s.toArray (char c).toPiece.regex i j ↔
        s[i]? = some c.char ∧ j = i + 1 := matches_single_iff
    rw [hset, matches_char_iff]
  | point =>
    have hset : Regex.Matches s.toArray point.toPiece.regex i j ↔
        i < s.length ∧ j = i + 1 := matches_all_iff
    rw [hset, matches_point_iff]
  | lineStart =>
    have hlook : Regex.Matches s.toArray lineStart.toPiece.regex i j ↔
        Regex.holdsAt s.toArray .lineStart i = true ∧ j = i := Regex.matches_look_iff
    rw [hlook, matches_lineStart_iff]
    refine and_congr_left fun hij => holdsAt_lineStart ?_
    rwa [← hij]
  | lineEnd =>
    have hlook : Regex.Matches s.toArray lineEnd.toPiece.regex i j ↔
        Regex.holdsAt s.toArray .lineEnd i = true ∧ j = i := Regex.matches_look_iff
    rw [hlook, matches_lineEnd_iff]
    refine and_congr_left fun hij => holdsAt_lineEnd ?_
    rwa [← hij]
  | group captured body ih =>
    rw [matches_group_iff]
    exact ih hj
  | star p ih =>
    -- Both sides are chains, of matches that agree up to the end of the text.
    have hstar : Regex.Matches s.toArray (star p).toPiece.regex i j ↔
        Relation.ReflTransGen (Regex.Matches s.toArray p.toPiece.regex) i j :=
      Piece.matches_starred
    rw [hstar, matches_star_iff]
    constructor
    · exact chain_mono (fun _ _ => Regex.Matches.le) (fun _ _ hm => (ih hm).mp) hj
    · exact chain_mono (fun _ _ => Matches.le) (fun _ _ hm => (ih hm).mpr) hj
  | nothing =>
    rw [matches_nothing_iff]
    exact Regex.matches_empty_iff
  | cat p b ihp ihb =>
    have hcat : Regex.Matches s.toArray (cat p b).toPiece.regex i j ↔
        ∃ k, Regex.Matches s.toArray p.toPiece.regex i k ∧
          Regex.Matches s.toArray b.toPiece.regex k j := Piece.matches_sequence_cons
    rw [hcat, matches_cat_iff]
    -- The pieces meet within the text, as the second match goes on to a position in it.
    constructor
    · rintro ⟨k, hp, hb⟩
      have hk : k ≤ s.length := hb.le.trans hj
      exact ⟨k, (ihp hk).mp hp, (ihb hj).mp hb⟩
    · rintro ⟨k, hp, hb⟩
      have hk : k ≤ s.length := hb.le.trans hj
      exact ⟨k, (ihp hk).mpr hp, (ihb hj).mpr hb⟩
  | one b ih =>
    rw [matches_one_iff]
    exact ih hj
  | alt b c ihb ihc =>
    have hne : c.pieces ≠ [] := by
      cases c <;> exact List.cons_ne_nil _ _
    have halt : Regex.Matches s.toArray (alt b c).toPiece.regex i j ↔
        Regex.Matches s.toArray b.toPiece.regex i j ∨
          Regex.Matches s.toArray c.toPiece.regex i j := Piece.matches_choice_cons hne
    rw [halt, matches_alt_iff, ihb hj, ihc hj]

/-- A pattern of which the text has a match is found, and only such a pattern. -/
theorem occursIn_toPiece (p : Core l) (text : String) :
    p.toPiece.regex.OccursIn text ↔ p.OccursIn text.toList := by
  unfold Regex.OccursIn OccursIn
  constructor
  · rintro ⟨i, j, hij, hj, hm⟩
    exact ⟨i, j, hij, hj, (matches_toPiece p hj).mp hm⟩
  · rintro ⟨i, j, hij, hj, hm⟩
    exact ⟨i, j, hij, hj, (matches_toPiece p hj).mpr hm⟩

end Core

end BlackBox.Pattern
