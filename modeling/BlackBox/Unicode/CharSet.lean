import BlackBox.Unicode.Ranges

/-!
# Sets of characters

Sets of characters built from ranges by union, intersection, difference and complement. A set is
kept as it was built, and `contains` decides membership by the laws of those operations.
-/

namespace BlackBox.Unicode

/-- A set of characters. -/
inductive CharSet where
  /-- The characters in ascending ranges of code points. -/
  | ranges (rs : Ranges)
  /-- The characters in either set. -/
  | union (a b : CharSet)
  /-- The characters in both sets. -/
  | inter (a b : CharSet)
  /-- The characters in the first set and not in the second. -/
  | diff (a b : CharSet)
  /-- The characters that are not in the set. -/
  | compl (a : CharSet)
  deriving Repr, DecidableEq

namespace CharSet

/-- Whether a code point is in the set. -/
def containsCode (n : Nat) : CharSet → Bool
  | ranges rs => rs.contains n
  | union a b => containsCode n a || containsCode n b
  | inter a b => containsCode n a && containsCode n b
  | diff a b => containsCode n a && !containsCode n b
  | compl a => !containsCode n a

/-- Whether a character is in the set. -/
def contains (s : CharSet) (c : Char) : Bool :=
  s.containsCode c.toNat

/-- The set without members. -/
def empty : CharSet := ranges []

/-- The set of all characters. -/
def all : CharSet := ranges [(0, 0x10FFFF)]

/-- The characters from `low` to `high`. -/
def interval (low high : Char) : CharSet := ranges [(low.toNat, high.toNat)]

/-- The set with one member. -/
def single (c : Char) : CharSet := interval c c

/-- The characters in exactly one of two sets. -/
def symmDiff (a b : CharSet) : CharSet := union (diff a b) (diff b a)

/-! ## Membership -/

/-- A set holds its only member and nothing else. -/
theorem contains_single (c d : Char) : (single c).contains d = decide (d = c) := by
  have h : d = c ↔ c.toNat ≤ d.toNat ∧ d.toNat ≤ c.toNat := by
    constructor
    · rintro rfl; simp
    · intro ⟨h₁, h₂⟩; exact Char.toNat_inj.1 (Nat.le_antisymm h₂ h₁)
  simp [single, interval, contains, containsCode, Ranges.contains, h]

end CharSet

end BlackBox.Unicode
