import BlackBox.Yaml.Scalar.Space

/-!
# Plain scalars

A plain scalar is written without quotes. It ends before a colon that a gap, a line break or the
end follows, before a comment, before the mark of a document, and before a line that is indented
too little; inside brackets it also ends before a comma and before any bracket.
-/

namespace BlackBox.Yaml.Plain

/-- A character that separates or encloses the items between brackets. -/
def isFlowMark (c : Char) : Bool :=
  c == ',' || c == '[' || c == ']' || c == '\x7b' || c == '\x7d'

/-- Whether a text begins with a colon that ends a plain scalar. -/
def atColon : List Char → Bool
  | ':' :: rest => atGapOrEnd rest
  | _ => false

/-- Whether a text begins with a colon that brackets do not allow. -/
def atBadColon : List Char → Bool
  | ':' :: c :: _ => isFlowMark c || c == '?'
  | _ => false

/-- Reads a word, after the given characters in reverse. `flow` says whether the scalar is inside
brackets. -/
def word (flow : Bool) : List Char → List Char → Option (List Char)
  | acc, [] => some acc.reverse
  | acc, c :: rest =>
    if !isInk c then some acc.reverse
    else if flow && atBadColon (c :: rest) then none
    else if atColon (c :: rest) || (flow && isFlowMark c) then some acc.reverse
    else word flow (c :: acc) rest

/-- A plain scalar that has been read. -/
structure Reading where
  /-- Its characters. -/
  text : List Char
  /-- The position after it and after the white space that follows. -/
  next : Cursor
  /-- Whether that white space has a line break. -/
  broken : Bool

/-- Reads the words of a scalar, after the given characters in reverse and white space that stands
for `space`. A line that continues the scalar outside brackets has at least `margin` columns before
it. -/
def words (flow : Bool) (margin : Int) (limit : Nat) :
    Nat → Cursor → List Char → Option Space → Option Reading
  | 0, _, _, _ => none
  | fuel + 1, p, acc, space =>
    let broken := space.any Space.broken
    if p.atDocumentMark || p.rest.head? == some '#' then some ⟨acc.reverse, p, broken⟩
    else match word flow [] p.rest with
      | none => none
      | some [] => some ⟨acc.reverse, p, broken⟩
      | some w =>
        let acc := w.reverse ++ ((space.map Space.text).getD []).reverse ++ acc
        let q := p.skip w.length
        if atGapOrEnd q.rest && !q.rest.isEmpty then
          match Space.read margin false limit q [] [] with
          | none => none
          | some s =>
            if !flow && s.next.column < margin then some ⟨acc.reverse, s.next, s.broken⟩
            else words flow margin limit fuel s.next acc (some s)
        else some ⟨acc.reverse, q, false⟩

/-- Reads a plain scalar. -/
def read (flow : Bool) (margin : Int) (limit : Nat) (p : Cursor) : Option Reading :=
  words flow margin limit limit p [] none

end BlackBox.Yaml.Plain
