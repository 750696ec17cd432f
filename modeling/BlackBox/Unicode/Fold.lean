import BlackBox.Unicode.CharSet
import BlackBox.Unicode.FoldTable

/-!
# Case folding

Characters that simple case folding takes to one character are variants of each other. `variants`
lists those of one character, and `closure` adds to a set every variant of its members.
-/

namespace BlackBox.Unicode

/-- The sets of characters that differ only in case. -/
def foldGroups : List (List Nat) := groups foldTable

/-- The characters that differ from `c` only in case, `c` itself included. -/
def variants (c : Char) : CharSet :=
  match foldGroups.find? fun g => g.contains c.toNat with
  | some g => .ranges (Ranges.ofCodes g)
  | none => .single c

/-- A set with every character that differs only in case from one of its members. -/
def closure (s : CharSet) : CharSet :=
  let added := foldGroups.filter fun g => g.any s.containsCode
  .union s (.ranges (Ranges.ofCodes added.flatten))

end BlackBox.Unicode
