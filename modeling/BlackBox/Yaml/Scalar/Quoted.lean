import BlackBox.Number.Digits
import BlackBox.Yaml.Scalar.Space

/-!
# Quoted scalars

A scalar between single quotes stands for its characters, with a quote written twice. Between
double quotes a backslash begins an escape, and a backslash at the end of a line joins the line to
the next one. White space is folded in both, and the mark of a document is refused.
-/

namespace BlackBox.Yaml.Quoted

/-- The characters that a backslash and one further character stand for. -/
def shortEscapes : List (Char × Char) := [
  ('0', '\x00'), ('a', '\x07'), ('b', '\x08'), ('t', '\t'), ('\t', '\t'), ('n', '\n'),
  ('v', '\x0b'), ('f', '\x0c'), ('r', '\r'), ('e', '\x1b'), (' ', ' '), ('"', '"'), ('/', '/'),
  ('\\', '\\'), ('N', '\x85'), ('_', '\xa0'), ('L', '\u2028'), ('P', '\u2029')]

/-- The number of hexadecimal digits after a letter that introduces a code point. -/
def codeWidth (c : Char) : Option Nat :=
  if c = 'x' then some 2 else if c = 'u' then some 4 else if c = 'U' then some 8 else none

/-- The character with a code point, if there is one. -/
def charOf? (n : Nat) : Option Char :=
  if n.isValidChar then some (Char.ofNat n) else none

/-- Reads the escape that a text begins with, the backslash left out: its character and the number
of characters that write it. -/
def escape? : List Char → Option (Char × Nat)
  | [] => none
  | c :: rest =>
    match shortEscapes.lookup c, codeWidth c with
    | some d, _ => some (d, 1)
    | none, some width =>
      let digits := rest.take width
      if digits.length = width ∧ digits.all Number.isHexDigit then
        (charOf? (Number.ofDigits 16 digits)).map fun d => (d, width + 1)
      else none
    | none, none => none

/-- What ends a word. -/
inductive End where
  /-- The closing quote. -/
  | quote
  /-- White space, or the end of the document. -/
  | space
  /-- An escaped line break. -/
  | escapedBreak
  deriving DecidableEq

/-- The quote around a scalar. -/
def mark (double : Bool) : Char := if double then '"' else '\''

/-- Reads a word, after the given characters in reverse, and gives all of them, in reverse, with
what ends the word and the position after that end. -/
def word (double : Bool) : Nat → Cursor → List Char → Option (List Char × End × Cursor)
  | 0, _, _ => none
  | fuel + 1, p, acc =>
    match p.rest with
    | [] => some (acc, .space, p)
    | c :: rest =>
      if !isInk c then some (acc, .space, p)
      else if !double && c == '\'' && rest.head? == some '\'' then
        word double fuel (p.skip 2) ('\'' :: acc)
      else if c == mark double then some (acc, .quote, p.skip 1)
      else if double && c == '\\' then
        if rest.head?.any isBreak then some (acc, .escapedBreak, (p.skip 1).skipBreak)
        else match escape? rest with
          | some (d, n) => word double fuel (p.skip (n + 1)) (d :: acc)
          | none => none
      else word double fuel (p.skip 1) (c :: acc)

/-- Reads a scalar up to its closing quote, after the given characters in reverse. -/
def words (double : Bool) (limit : Nat) : Nat → Cursor → List Char → Option (List Char × Cursor)
  | 0, _, _ => none
  | fuel + 1, p, acc =>
    if p.atDocumentMark || p.rest.isEmpty then none
    else match word double limit p acc with
      | none => none
      | some (acc, .quote, q) => some (acc.reverse, q)
      | some (acc, e, q) =>
        match Space.read 0 (e == .escapedBreak) limit q [] [] with
        | none => none
        | some s =>
          let between := if e == .escapedBreak then s.breaks else s.text
          words double limit fuel s.next (between.reverse ++ acc)

/-- Reads a quoted scalar that the position stands before. -/
def read (double : Bool) (limit : Nat) (p : Cursor) : Option (List Char × Cursor) :=
  words double limit limit (p.skip 1) []

end BlackBox.Yaml.Quoted
