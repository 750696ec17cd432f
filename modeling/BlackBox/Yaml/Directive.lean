import BlackBox.Yaml.Scalar.Block
import BlackBox.Yaml.Tag

/-!
# Directives

A line before a document that begins with a percent sign declares the version of the language or
what a tag handle stands for. Other directives are refused.
-/

namespace BlackBox.Yaml.Directive

/-- The greatest number of digits in a version number. -/
def maxDigits : Nat := 9

/-- Reads a version number. -/
def number? (p : Cursor) : Option (Nat × Cursor) :=
  let digits := p.rest.takeWhile Char.isDigit
  if digits.isEmpty ∨ maxDigits < digits.length then none
  else some (Number.ofDigits 10 digits, p.skip digits.length)

/-- Reads a version: two numbers with a point between them. -/
def version? (p : Cursor) : Option (Token × Cursor) := do
  let (major, p) ← number? p
  if p.rest.head? ≠ some '.' then none
  let (minor, p) ← number? (p.skip 1)
  return (.version major minor, p)

/-- Reads a tag handle and what it stands for. -/
def handle? (limit : Nat) (p : Cursor) : Option (Token × Cursor) := do
  let (handle, p) ← Tag.handle? p
  if handle ≠ ['!'] ∧ ¬ Tag.closed handle then none
  if ¬ p.rest.head?.any isGap then none
  let q := p.skipWhile isGap
  let (bs, r) ← Tag.uri true limit q []
  if r.index = q.index ∨ ¬ atGapOrEnd r.rest then none
  return (.handle (String.ofList handle) (Tag.untilNull bs), r)

/-- Reads a directive that the position stands before, with the rest of its line. -/
def read? (limit : Nat) (p : Cursor) : Option (Token × Cursor) := do
  let p := p.skip 1
  let name := p.rest.takeWhile isName
  let p := p.skip name.length
  if ¬ atGapOrEnd p.rest then none
  let p := p.skipWhile isGap
  let (t, p) ←
    if name = ['Y', 'A', 'M', 'L'] then version? p
    else if name = ['T', 'A', 'G'] then handle? limit p
    else none
  let p ← Block.restOfLine? p
  return (t, p)

end BlackBox.Yaml.Directive
