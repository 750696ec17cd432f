/-!
# Characters and positions of a document

The character classes that the tokens of a document are defined by, and the position of a reader
in its text. A position holds what is left of the text, so that everything about reading can be
said of lists of characters.
-/

namespace BlackBox.Yaml

/-! ## Character classes -/

/-- Whether a character may stand in a document at all. -/
def admissible (c : Char) : Bool :=
  let n := c.toNat
  n == 0x09 || n == 0x0A || n == 0x0D || (0x20 ≤ n && n ≤ 0x7E) || n == 0x85 ||
    (0xA0 ≤ n && n ≤ 0xD7FF) || (0xE000 ≤ n && n ≤ 0xFFFD) || 0x10000 ≤ n

/-- A line break: a carriage return, a newline, or one of three separators outside ASCII. -/
def isBreak (c : Char) : Bool :=
  c == '\n' || c == '\r' || c == '\x85' || c == '\u2028' || c == '\u2029'

/-- A space or a tab. -/
def isGap (c : Char) : Bool := c == ' ' || c == '\t'

/-- A character that is neither a gap nor a line break. -/
def isInk (c : Char) : Bool := !isGap c && !isBreak c

/-- A character of names: an ASCII letter or digit, a hyphen or an underscore. -/
def isName (c : Char) : Bool := c.isAlphanum || c == '-' || c == '_'

/-- Whether a text begins with a gap or a line break, or is at its end. -/
def atGapOrEnd : List Char → Bool
  | [] => true
  | c :: _ => !isInk c

/-- Whether a text begins with a line break, or is at its end. -/
def atBreakOrEnd : List Char → Bool
  | [] => true
  | c :: _ => isBreak c

/-! ## Positions -/

/-- A position in a document. -/
structure Cursor where
  /-- What is left of the text. -/
  rest : List Char
  /-- The number of characters before the position. -/
  index : Nat := 0
  /-- The number of line breaks before the position. -/
  line : Nat := 0
  /-- The number of characters before the position in its line. -/
  column : Nat := 0
  deriving Repr

namespace Cursor

/-- The position after `n` characters that are no line breaks. -/
def skip (p : Cursor) (n : Nat) : Cursor :=
  { p with rest := p.rest.drop n, index := p.index + n, column := p.column + n }

/-- The position after the characters that satisfy `f`, none of which is a line break. -/
def skipWhile (p : Cursor) (f : Char → Bool) : Cursor :=
  p.skip (p.rest.takeWhile f).length

/-- What a line break stands for in a value: one of the two separators outside ASCII for itself,
and any other break for a newline. -/
def breakText (c : Char) : Char :=
  if c = '\u2028' ∨ c = '\u2029' then c else '\n'

/-- Reads a line break, if there is one. A carriage return and a newline are one break. -/
def readBreak? (p : Cursor) : Option (Char × Cursor) :=
  match p.rest with
  | '\r' :: '\n' :: rest =>
    some ('\n', { rest, index := p.index + 2, line := p.line + 1, column := 0 })
  | c :: rest =>
    if isBreak c then
      some (breakText c, { rest, index := p.index + 1, line := p.line + 1, column := 0 })
    else none
  | [] => none

/-- The position after a line break, if there is one. -/
def skipBreak (p : Cursor) : Cursor :=
  (p.readBreak?.map Prod.snd).getD p

/-- Whether the position is at the beginning of a line that begins or ends a document. -/
def atDocumentMark (p : Cursor) : Bool :=
  p.column == 0 && match p.rest with
    | '-' :: '-' :: '-' :: rest => atGapOrEnd rest
    | '.' :: '.' :: '.' :: rest => atGapOrEnd rest
    | _ => false

end Cursor

end BlackBox.Yaml
