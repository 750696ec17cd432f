import BlackBox.Number.Digits

/-!
# Ranges of code points

A set of code points given by its ranges, in ascending order and apart from one another, and the
notation in which the tables of this library write such sets: ranges in hexadecimal, a hyphen
between the ends of a range, a space between ranges.
-/

namespace BlackBox.Unicode

/-- A set of code points: the least and the greatest member of each of its ranges, in ascending
order. -/
abbrev Ranges := List (Nat × Nat)

/-- Whether a code point is in one of the ranges. The search ends at the first range that begins
above it. -/
def Ranges.contains (n : Nat) : Ranges → Bool
  | [] => false
  | (low, high) :: rest => low ≤ n && (n ≤ high || contains n rest)

/-- The groups of a table's text: groups are separated by spaces, and the numbers of a group by
hyphens. -/
def groups (text : String) : List (List Nat) :=
  (text.splitOn " ").map fun group => (group.splitOn "-").map fun n => Number.ofDigits 16 n.toList

/-- The range that one or two numbers stand for. -/
def rangeOf : List Nat → Nat × Nat
  | [] => (1, 0)
  | [n] => (n, n)
  | low :: high :: _ => (low, high)

/-- Reads the ranges of a table. -/
def Ranges.ofText (text : String) : Ranges :=
  (groups text).map rangeOf

/-- The ranges that hold the given code points and no others. -/
def Ranges.ofCodes (codes : List Nat) : Ranges :=
  (codes.mergeSort (· ≤ ·)).map fun n => (n, n)

end BlackBox.Unicode
