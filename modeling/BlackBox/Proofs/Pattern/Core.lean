import Mathlib.Logic.Relation
import Mathlib.Order.Basic
import BlackBox.Pattern.Parse

/-!
# Core patterns

The patterns that are written with characters, points, signs for the ends of lines, groups, branches
and stars. A core pattern is a tree of what is written, from which its text is read off, and
`Matches` is what it means: which parts of a text match it. The tree also tells how deep a pattern
is nested.
-/

namespace BlackBox.Pattern

/-! ## Syntax -/

/-- The characters that have a meaning of their own in a pattern. -/
def signs : List Char := ['\\', '.', '+', '*', '?', '(', ')', '|', '[', '\x7b', '^', '$']

/-- A character that stands for itself in a pattern, with a backslash before it or without one. -/
structure Literal where
  /-- The character. -/
  char : Char
  /-- Whether there is a backslash before it. -/
  escaped : Bool
  /-- A character with a meaning of its own needs the backslash, and a letter must not have it. -/
  valid : if escaped then Escape.isLiteral char = true else char ∉ signs

namespace Literal

/-- What is written for a character. -/
def text (l : Literal) : List Char := if l.escaped then ['\\', l.char] else [l.char]

/-- A character with a backslash where it needs one. -/
def of (c : Char) : Literal where
  char := c
  escaped := signs.contains c
  valid := by
    split_ifs with h
    · have hsigns : signs.all Escape.isLiteral = true := by decide
      exact List.all_eq_true.mp hsigns c (List.contains_iff_mem.mp h)
    · exact fun hmem => h (List.contains_iff_mem.mpr hmem)

end Literal

/-- The levels at which a pattern is put together. -/
inductive Level where
  /-- What can be repeated. -/
  | piece
  /-- Pieces one after another. -/
  | branch
  /-- Branches of which any one may match. -/
  | choice

/-- A core pattern. -/
inductive Core : Level → Type where
  /-- A character. -/
  | char (l : Literal) : Core .piece
  /-- A point. -/
  | point : Core .piece
  /-- The sign of the beginning of a line. -/
  | lineStart : Core .piece
  /-- The sign of the end of a line. -/
  | lineEnd : Core .piece
  /-- A pattern in parentheses, and whether what it matches can be referred to. -/
  | group (captured : Bool) (body : Core .choice) : Core .piece
  /-- A piece any number of times. -/
  | star (p : Core .piece) : Core .piece
  /-- No further pieces. -/
  | nothing : Core .branch
  /-- A piece before others. -/
  | cat (p : Core .piece) (b : Core .branch) : Core .branch
  /-- The last branch. -/
  | one (b : Core .branch) : Core .choice
  /-- A branch before others. -/
  | alt (b : Core .branch) (c : Core .choice) : Core .choice

namespace Core

variable {l : Level}

/-- The text of a pattern. -/
def text : {l : Level} → Core l → List Char
  | _, char c => c.text
  | _, point => ['.']
  | _, lineStart => ['^']
  | _, lineEnd => ['$']
  | _, group captured body => '(' :: (if captured then [] else ['?', ':']) ++ body.text ++ [')']
  | _, star p => p.text ++ ['*']
  | _, nothing => []
  | _, cat p b => p.text ++ b.text
  | _, one b => b.text
  | _, alt b c => b.text ++ '|' :: c.text

/-- The pattern as it is given to a test. -/
def pattern (p : Core .choice) : String := String.ofList p.text

/-! ## Meaning -/

/-- A position is at the beginning of the text or after a newline. -/
def AtLineStart (s : List Char) (i : ℕ) : Prop := i = 0 ∨ s[i - 1]? = some '\n'

/-- A position is at the end of the text or before a newline. -/
def AtLineEnd (s : List Char) (i : ℕ) : Prop := i = s.length ∨ s[i]? = some '\n'

/-- A pattern matches the characters of a text from one position to another. -/
inductive Matches (s : List Char) : {l : Level} → Core l → ℕ → ℕ → Prop where
  | char {c : Literal} {i : ℕ} : s[i]? = some c.char → Matches s (char c) i (i + 1)
  | point {i : ℕ} : i < s.length → Matches s point i (i + 1)
  | lineStart {i : ℕ} : AtLineStart s i → Matches s lineStart i i
  | lineEnd {i : ℕ} : AtLineEnd s i → Matches s lineEnd i i
  | group {captured : Bool} {body : Core .choice} {i j : ℕ} : Matches s body i j →
      Matches s (group captured body) i j
  | done {p : Core .piece} (i : ℕ) : Matches s (star p) i i
  | more {p : Core .piece} {i j k : ℕ} : Matches s p i j → Matches s (star p) j k →
      Matches s (star p) i k
  | nothing (i : ℕ) : Matches s nothing i i
  | cat {p : Core .piece} {b : Core .branch} {i j k : ℕ} : Matches s p i j → Matches s b j k →
      Matches s (cat p b) i k
  | one {b : Core .branch} {i j : ℕ} : Matches s b i j → Matches s (one b) i j
  | first {b : Core .branch} {c : Core .choice} {i j : ℕ} : Matches s b i j →
      Matches s (alt b c) i j
  | later {b : Core .branch} {c : Core .choice} {i j : ℕ} : Matches s c i j →
      Matches s (alt b c) i j

section

variable {s : List Char} {c : Literal} {captured : Bool} {p : Core .piece} {b : Core .branch}
  {body : Core .choice} {i j : ℕ}

/-- A character matches itself. -/
theorem matches_char_iff : (char c).Matches s i j ↔ s[i]? = some c.char ∧ j = i + 1 := by
  constructor
  · intro h
    cases h with
    | char hc => exact ⟨hc, rfl⟩
  · rintro ⟨hc, rfl⟩
    exact .char hc

/-- A point matches any one character. -/
theorem matches_point_iff : point.Matches s i j ↔ i < s.length ∧ j = i + 1 := by
  constructor
  · intro h
    cases h with
    | point hi => exact ⟨hi, rfl⟩
  · rintro ⟨hi, rfl⟩
    exact .point hi

/-- The sign of the beginning of a line matches nothing there. -/
theorem matches_lineStart_iff : lineStart.Matches s i j ↔ AtLineStart s i ∧ j = i := by
  constructor
  · intro h
    cases h with
    | lineStart hi => exact ⟨hi, rfl⟩
  · rintro ⟨hi, rfl⟩
    exact .lineStart hi

/-- The sign of the end of a line matches nothing there. -/
theorem matches_lineEnd_iff : lineEnd.Matches s i j ↔ AtLineEnd s i ∧ j = i := by
  constructor
  · intro h
    cases h with
    | lineEnd hi => exact ⟨hi, rfl⟩
  · rintro ⟨hi, rfl⟩
    exact .lineEnd hi

/-- A group matches what is in it. -/
theorem matches_group_iff : (group captured body).Matches s i j ↔ body.Matches s i j := by
  constructor
  · intro h
    cases h with
    | group hbody => exact hbody
  · exact .group

/-- No pieces match nothing. -/
theorem matches_nothing_iff : nothing.Matches s i j ↔ j = i := by
  constructor
  · intro h
    cases h with
    | nothing => rfl
  · rintro rfl
    exact .nothing j

/-- Pieces match one after another. -/
theorem matches_cat_iff :
    (cat p b).Matches s i j ↔ ∃ k, p.Matches s i k ∧ b.Matches s k j := by
  constructor
  · intro h
    cases h with
    | cat hp hb => exact ⟨_, hp, hb⟩
  · rintro ⟨k, hp, hb⟩
    exact .cat hp hb

/-- The last branch matches by itself. -/
theorem matches_one_iff : (one b).Matches s i j ↔ b.Matches s i j := by
  constructor
  · intro h
    cases h with
    | one hb => exact hb
  · exact .one

/-- Any one of the branches matches. -/
theorem matches_alt_iff : (alt b body).Matches s i j ↔ b.Matches s i j ∨ body.Matches s i j := by
  constructor
  · intro h
    cases h with
    | first hb => exact .inl hb
    | later hc => exact .inr hc
  · rintro (hb | hc)
    · exact .first hb
    · exact .later hc

end

/-- A pattern matches some part of a text. -/
def OccursIn (p : Core l) (s : List Char) : Prop :=
  ∃ i j, i ≤ j ∧ j ≤ s.length ∧ p.Matches s i j

/-- A match does not end before it begins. -/
theorem Matches.le {s : List Char} {p : Core l} {i j : ℕ} (h : p.Matches s i j) : i ≤ j := by
  induction h with
  | char | point => exact Nat.le_succ _
  | lineStart | lineEnd | done | nothing => exact Nat.le_refl _
  | group _ ih | one _ ih | first _ ih | later _ ih => exact ih
  | more _ _ ihp ihs => exact Nat.le_trans ihp ihs
  | cat _ _ ihp ihb => exact Nat.le_trans ihp ihb

/-! ## Nesting -/

/-- The number of parts that a pattern is put together from at its level. -/
def width : {l : Level} → Core l → ℕ
  | _, nothing => 0
  | _, cat _ b => b.width + 1
  | _, alt _ c => c.width + 1
  | _, _ => 1

/-- The depth of nesting of a pattern with some parts, given the greatest depth of a part: putting
parts together is a level of its own. -/
def joinDepth (width depth : ℕ) : ℕ := if 2 ≤ width then depth + 1 else depth

/-- The greatest depth of nesting of a part. -/
def partDepth : {l : Level} → Core l → ℕ
  | _, group _ body => joinDepth body.width body.partDepth + 1
  | _, star p => p.partDepth + 1
  | _, cat p b => max p.partDepth b.partDepth
  | _, one b => joinDepth b.width b.partDepth
  | _, alt b c => max (joinDepth b.width b.partDepth) c.partDepth
  | _, _ => 0

/-- The depth of nesting of a pattern. -/
def depth (p : Core .choice) : ℕ := joinDepth p.width p.partDepth

/-! ## Stars -/

/-- A match of a star is a chain of matches of the piece. -/
theorem Matches.chain {s : List Char} {p : Core .piece} {i j : ℕ} (h : (star p).Matches s i j) :
    Relation.ReflTransGen (p.Matches s) i j := by
  -- The level is part of the type of a pattern, so that patterns are compared with their levels.
  suffices hq : ∀ {l : Level} {q : Core l}, q.Matches s i j →
      (⟨l, q⟩ : (l : Level) × Core l) = ⟨.piece, star p⟩ →
        Relation.ReflTransGen (p.Matches s) i j from hq h rfl
  intro l q hq heq
  induction hq with
  | done => exact .refl
  | more hp hs _ ih =>
    cases heq
    exact .head hp (ih hs rfl)
  | _ => cases heq

/-- The matches of a star are chains of matches of the piece. -/
theorem matches_star_iff {s : List Char} {p : Core .piece} {i j : ℕ} :
    (star p).Matches s i j ↔ Relation.ReflTransGen (p.Matches s) i j := by
  refine ⟨Matches.chain, fun h => ?_⟩
  induction h using Relation.ReflTransGen.head_induction_on with
  | refl => exact .done j
  | head hp _ ih => exact .more hp ih

end Core

end BlackBox.Pattern
