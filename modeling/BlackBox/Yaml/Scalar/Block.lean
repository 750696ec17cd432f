import BlackBox.Yaml.Cursor

/-!
# Block scalars

A block scalar is the lines below its header that are indented enough. The header says whether the
lines are kept as they are or folded, by how much they are indented, and what becomes of the line
breaks at the end. The indentation is found from the first line that is not blank if the header
does not give it.
-/

namespace BlackBox.Yaml.Block

/-- What becomes of the line breaks at the end of a block scalar. -/
inductive Chomp where
  /-- None is kept. -/
  | strip
  /-- The first one is kept. -/
  | clip
  /-- All are kept. -/
  | keep
  deriving DecidableEq, Repr

/-- The header of a block scalar. -/
structure Header where
  /-- What becomes of the line breaks at the end. -/
  chomp : Chomp := .clip
  /-- The indentation relative to the surrounding structure, or zero if it is not given. -/
  increment : Nat := 0
  deriving Repr

/-- The sign that says what becomes of the line breaks at the end. -/
def chomp? (c : Char) : Option Chomp :=
  if c = '+' then some .keep else if c = '-' then some .strip else none

/-- The header that a text begins with, its indicator left out, and the number of characters that
write it. The sign and the digit may stand in either order, and the digit may not be zero. -/
def header? : List Char → Option (Header × Nat)
  | [] => some ({}, 0)
  | c :: rest =>
    let d := rest.head?.getD ' '
    match chomp? c with
    | some chomp =>
      if d = '0' then none
      else if d.isDigit then some (⟨chomp, d.toNat - '0'.toNat⟩, 2)
      else some (⟨chomp, 0⟩, 1)
    | none =>
      if c = '0' then none
      else if c.isDigit then
        match chomp? d with
        | some chomp => some (⟨chomp, c.toNat - '0'.toNat⟩, 2)
        | none => some (⟨.clip, c.toNat - '0'.toNat⟩, 1)
      else some ({}, 0)

/-- Skips gaps, a comment and a line break, with nothing else allowed before the end of the line. -/
def restOfLine? (p : Cursor) : Option Cursor :=
  let p := p.skipWhile isGap
  let p := if p.rest.head? == some '#' then p.skipWhile fun c => !isBreak c else p
  if atBreakOrEnd p.rest then some p.skipBreak else none

/-- The blank lines before a line of a block scalar. -/
structure Blanks where
  /-- What each of their line breaks stands for. -/
  breaks : List Char
  /-- The greatest column that a line was indented to. -/
  widest : Nat
  /-- The position after the blank lines and the indentation of the line that follows. -/
  next : Cursor

/-- Skips blank lines and indentation up to the column `indent`, or any indentation if that is zero.
A tab in place of indentation is refused. The line breaks so far are given in reverse. -/
def blanks (indent : Nat) : Nat → Cursor → List Char → Nat → Option Blanks
  | 0, _, _, _ => none
  | fuel + 1, p, breaks, widest =>
    let spaces := (p.rest.takeWhile (· == ' ')).length
    let q := p.skip (if indent = 0 then spaces else min spaces (indent - p.column))
    let widest := max widest q.column
    if (indent == 0 || q.column < indent) && q.rest.head? == some '\t' then none
    else match q.readBreak? with
      | some (b, r) => blanks indent fuel r (b :: breaks) widest
      | none => some ⟨breaks.reverse, widest, q⟩

/-- What the line breaks between two lines stand for: `lead` is the break that ends the first line,
or empty before the first one, and `breaks` are those of blank lines. A newline is folded unless a
line beside it begins with a gap. -/
def between (folded fold : Bool) (lead breaks : List Char) : List Char :=
  if folded && fold && lead == ['\n'] then
    if breaks.isEmpty then [' '] else breaks
  else lead ++ breaks

/-- What the line breaks after the last line stand for. -/
def ending (chomp : Chomp) (lead breaks : List Char) : List Char :=
  match chomp with
  | .strip => []
  | .clip => lead
  | .keep => lead ++ breaks

/-- Reads the lines of a block scalar that are indented to the column `indent`, after the given
characters in reverse. -/
def body (folded : Bool) (chomp : Chomp) (indent limit : Nat) :
    Nat → Blanks → List Char → List Char → Bool → Option (List Char × Cursor)
  | 0, _, _, _, _ => none
  | fuel + 1, b, acc, lead, gapBefore =>
    let p := b.next
    if p.column == indent && !p.rest.isEmpty then
      let gapHere := p.rest.head?.any isGap
      let line := p.rest.takeWhile fun c => !isBreak c
      let gap := between folded (!gapBefore && !gapHere) lead b.breaks
      let acc := line.reverse ++ gap.reverse ++ acc
      let q := p.skip line.length
      let (lead, q) := match q.readBreak? with
        | some (c, r) => ([c], r)
        | none => ([], q)
      match blanks indent limit q [] 0 with
      | none => none
      | some b => body folded chomp indent limit fuel b acc lead gapHere
    else some (((ending chomp lead b.breaks).reverse ++ acc).reverse, p)

/-- Reads a block scalar that the position stands before. `base` is the indentation of the
surrounding structure. -/
def read (folded : Bool) (base : Int) (limit : Nat) (p : Cursor) : Option (List Char × Cursor) :=
  let p := p.skip 1
  match header? p.rest with
  | none => none
  | some (header, width) =>
    match restOfLine? (p.skip width) with
    | none => none
    | some p =>
      let given := if header.increment = 0 then 0 else (max base 0).toNat + header.increment
      match blanks given limit p [] 0 with
      | none => none
      | some b =>
        let indent := if given = 0 then max (max b.widest (base + 1).toNat) 1 else given
        body folded header.chomp indent limit limit b [] [] false

end BlackBox.Yaml.Block
