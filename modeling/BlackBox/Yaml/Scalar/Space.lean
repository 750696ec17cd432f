import BlackBox.Yaml.Cursor

/-!
# White space inside scalars

Between the words of a plain or quoted scalar there may be gaps and line breaks. `Space.read` reads
them and `Space.text` says what they stand for: gaps on one line for themselves, one line break for
a space, and further line breaks for themselves. Gaps beside a line break leave no trace.
-/

namespace BlackBox.Yaml

/-- What some line breaks stand for when they are folded: a single newline is a space, and of
several the first one is dropped if it is a newline. -/
def foldBreaks : List Char → List Char
  | ['\n'] => [' ']
  | '\n' :: breaks => breaks
  | breaks => breaks

/-- White space between two words of a scalar. -/
structure Space where
  /-- The gaps before the first line break. -/
  gaps : List Char
  /-- What each line break stands for. -/
  breaks : List Char
  /-- The position after the white space. -/
  next : Cursor

namespace Space

/-- Reads white space, after the given gaps and line breaks in reverse. With `escaped` set the
white space follows a line break that was escaped and counts for nothing. A tab that stands after a
line break and before the column `margin` is refused. -/
def read (margin : Int) (escaped : Bool) : Nat → Cursor → List Char → List Char → Option Space
  | 0, _, _, _ => none
  | fuel + 1, p, gaps, breaks =>
    if p.rest.head?.any isGap then
      if escaped || !breaks.isEmpty then
        if p.rest.head? == some '\t' && p.column < margin then none
        else read margin escaped fuel (p.skip 1) gaps breaks
      else read margin escaped fuel (p.skip 1) (p.rest.take 1 ++ gaps) breaks
    else match p.readBreak? with
      | some (b, q) => read margin escaped fuel q gaps (b :: breaks)
      | none => some ⟨gaps.reverse, breaks.reverse, p⟩

/-- Whether there is a line break in the white space. -/
def broken (s : Space) : Bool := !s.breaks.isEmpty

/-- What the white space stands for. -/
def text (s : Space) : List Char :=
  if s.broken then foldBreaks s.breaks else s.gaps

end Space

end BlackBox.Yaml
