import BlackBox.Pattern.Class
import BlackBox.Pattern.Search

/-!
# Reading patterns

`read?` reads the text of a pattern as a regular expression. The text is read once, from left to
right, and groups that are open are kept in a list, the innermost first. A group is a list of
branches, and a branch is a list of pieces; both are joined when they are complete. Patterns that
are nested too deep are refused.

`compile?` is the same for a pattern that is to be looked for. What is built for that may be too
large, which depends on how it is built; so whether it is small enough is a parameter.
-/

namespace BlackBox.Pattern

open Unicode (CharSet)

/-- A part of a pattern. -/
structure Piece where
  /-- The expression that it stands for. -/
  regex : Regex
  /-- The depth of nesting. -/
  height : Nat := 0
  /-- Whether it can be repeated. Letters that set flags cannot. -/
  repeatable : Bool := true

/-- The greatest depth of nesting. -/
def maxHeight : Nat := 250

namespace Piece

/-! ## Single pieces -/

/-- The piece for a set of characters. -/
def ofSet (s : CharSet) : Piece := { regex := .set s }

/-- The piece for a condition. -/
def ofLook (l : Look) : Piece := { regex := .look l }

/-- The piece for a character, with its variants if case makes no difference. -/
def ofChar (f : Flags) (c : Char) : Piece :=
  if !f.caseless then ofSet (.single c)
  else ofSet (if f.unicode then Unicode.variants c else Class.asciiClosure (.single c))

/-- The piece for an atom. A byte outside ASCII is no character. -/
def ofAtom? (f : Flags) : Atom → Option Piece
  | .char c byte => if byte && !f.unicode && 0x80 ≤ c.toNat then none else some (ofChar f c)
  | .look l => some (ofLook l)
  | .set s => some (ofSet s)

/-- The piece for a point. -/
def ofPoint? (f : Flags) : Option Piece :=
  if !f.unicode then none
  else if f.dotAll then some (ofSet .all)
  else if f.carriage then some (ofSet (.compl (.ranges [(0x0A, 0x0A), (0x0D, 0x0D)])))
  else some (ofSet (.compl (.single '\n')))

/-- The piece for the sign of a beginning. -/
def ofCaret (f : Flags) : Piece :=
  ofLook (if !f.multiLine then .textStart else if f.carriage then .lineStartCr else .lineStart)

/-- The piece for the sign of an end. -/
def ofDollar (f : Flags) : Piece :=
  ofLook (if !f.multiLine then .textEnd else if f.carriage then .lineEndCr else .lineEnd)

/-- The piece for letters that set flags. -/
def ofFlags : Piece := { regex := .empty, repeatable := false }

/-! ## Joined pieces -/

/-- The greatest height of some pieces. -/
def heights (ps : List Piece) : Nat := (ps.map height).foldl max 0

/-- Joins the expressions of some pieces, of which there is at least one, from right to left. -/
def joinRegex (op : Regex → Regex → Regex) : Piece → List Piece → Regex
  | p, ps =>
    match ps.getLast? with
    | none => p.regex
    | some last => (p :: ps.dropLast).foldr (fun q r => op q.regex r) last.regex

/-- Pieces one after another. -/
def sequence : List Piece → Piece
  | [] => { regex := .empty }
  | [p] => p
  | p :: ps => { regex := joinRegex .cat p ps, height := heights (p :: ps) + 1 }

/-- Pieces of which any one may match. -/
def choice : List Piece → Piece
  | [] => { regex := .empty }
  | [p] => p
  | p :: ps => { regex := joinRegex .alt p ps, height := heights (p :: ps) + 1 }

/-- A piece in parentheses. -/
def group (p : Piece) : Piece := { regex := p.regex, height := p.height + 1 }

/-! ## Repeated pieces -/

/-- An expression from `low` to `high` times, where no `high` is no limit. -/
def repetition (r : Regex) (low : Nat) : Option Nat → Regex
  | none => .cat (.times low r) (.star r)
  | some high => .cat (.times low r) (.times (high - low) (.alt r .empty))

/-- A piece from `low` to `high` times, if it can be repeated and the bounds are in order. -/
def repeated? (p : Piece) (low : Nat) (high : Option Nat) : Option Piece :=
  if !p.repeatable || high.any (· < low) then none
  else some { regex := repetition p.regex low high, height := p.height + 1 }

end Piece

/-! ## Groups -/

/-- A group that is open: what surrounds it, to be taken up again when it is closed. -/
structure Frame where
  /-- The flags around the group. -/
  flags : Flags
  /-- The pieces of the current branch before the group, the last one first. -/
  pieces : List Piece
  /-- The branches before that one, the last one first. -/
  branches : List Piece

/-- The state between two pieces. -/
structure Parse where
  /-- The flags in force. -/
  flags : Flags := {}
  /-- The pieces of the current branch, the last one first. -/
  pieces : List Piece := []
  /-- The branches before it in the innermost group, the last one first. -/
  branches : List Piece := []
  /-- The groups around that branch, the innermost first. -/
  outer : List Frame := []
  /-- The names of groups so far. -/
  names : List (List Char) := []

namespace Parse

/-- Adds a piece to the current branch. -/
def push (s : Parse) (p : Piece) : Parse := { s with pieces := p :: s.pieces }

/-- Ends the current branch. -/
def branch (s : Parse) : Parse :=
  { s with pieces := [], branches := Piece.sequence s.pieces.reverse :: s.branches }

/-- The innermost group as it is. -/
def body (s : Parse) : Piece := Piece.choice s.branch.branches.reverse

/-- Opens a group. -/
def openGroup (s : Parse) (flags : Flags) : Parse :=
  { s with
    flags, pieces := [], branches := []
    outer := ⟨s.flags, s.pieces, s.branches⟩ :: s.outer }

/-- Closes the innermost group. -/
def closeGroup? (s : Parse) : Option Parse :=
  match s.outer with
  | [] => none
  | g :: outer =>
    some { s with
      flags := g.flags
      pieces := s.body.group :: g.pieces
      branches := g.branches
      outer }

/-- Whether a character may stand in the name of a group, or at its beginning. -/
def isNameChar (first : Bool) (c : Char) : Bool :=
  c == '_' ||
    (if first then Unicode.alphabetic.contains c
     else c == '.' || c == '[' || c == ']' || Unicode.alphanumeric.contains c)

/-- Whether some characters are the name of a group. -/
def isGroupName : List Char → Bool
  | [] => false
  | c :: cs => isNameChar true c && cs.all (isNameChar false)

/-- Opens a group with a name, which no other group may have. -/
def namedGroup? (s : Parse) (text : List Char) : Option (Parse × List Char) :=
  let name := text.takeWhile (· != '>')
  match text.dropWhile (· != '>') with
  | [] => none
  | _ :: rest =>
    if isGroupName name && !s.names.contains name then
      some ({ s with names := name :: s.names }.openGroup s.flags, rest)
    else none

/-- Reads an opening parenthesis and what belongs to it, after the parenthesis itself: the name of a
group, letters that set flags for the group or, with no group, from here on. Letters that are left
out there would leave nothing to repeat, and looking around is not provided for. -/
def open? (s : Parse) (text : List Char) : Option (Parse × List Char) :=
  match s.flags.skip text with
  | '?' :: '=' :: _ | '?' :: '!' :: _ | '?' :: '<' :: '=' :: _ | '?' :: '<' :: '!' :: _ => none
  | '?' :: 'P' :: '<' :: rest => s.namedGroup? rest
  | '?' :: '<' :: rest => s.namedGroup? rest
  | '?' :: rest =>
    match s.flags.read? [] rest with
    | none => none
    | some (flags, ':', rest) => some (s.openGroup flags, rest)
    | some (flags, _, rest') =>
      if rest.head? = some ')' then none
      else some ({ s with flags }.push Piece.ofFlags, rest')
  | rest => some (s.openGroup s.flags, rest)

/-! ## Repetitions -/

/-- Replaces the last piece by a repetition of it. -/
def repeatLast? (s : Parse) (low : Nat) (high : Option Nat) : Option Parse :=
  match s.pieces with
  | [] => none
  | p :: pieces => (p.repeated? low high).map fun q => { s with pieces := q :: pieces }

/-- Reads digits, between which white space may count for nothing, after the given ones in
reverse. -/
def digits (f : Flags) : Nat → List Char → List Char → List Char × List Char
  | 0, acc, text => (acc.reverse, text)
  | fuel + 1, acc, text =>
    match text with
    | c :: rest =>
      if c.isDigit then digits f fuel (c :: acc) (f.skip rest) else (acc.reverse, text)
    | [] => (acc.reverse, [])

/-- Reads a number of 32 bits and the white space around it. -/
def number? (f : Flags) (text : List Char) : Option (Nat × List Char) :=
  let text := text.dropWhile Text.isBlank
  let (ds, rest) := digits f text.length [] text
  let n := Number.ofDigits 10 ds
  if ds.isEmpty || 4294967296 ≤ n then none else some (n, rest.dropWhile Text.isBlank)

/-- Reads the bounds of a counted repetition, after its opening brace and up to its closing one. -/
def bounds? (f : Flags) (text : List Char) : Option (Nat × Option Nat × List Char) := do
  let (low, rest) ← number? f (f.skip text)
  match rest with
  | '\x7d' :: rest => return (low, some low, rest)
  | ',' :: rest =>
    match f.skip rest with
    | '\x7d' :: rest => return (low, none, rest)
    | text => do
      let (high, rest) ← number? f text
      if rest.head? = some '\x7d' then return (low, some high, rest.drop 1) else none
  | _ => none

/-- A text without the question mark at its beginning, which only chooses between matches. -/
def dropLazy (text : List Char) : List Char :=
  if text.head? = some '?' then text.drop 1 else text

/-! ## Patterns -/

/-- Reads what the pattern goes on with. -/
def step? (s : Parse) (c : Char) (rest : List Char) : Option (Parse × List Char) :=
  if c = '(' then s.open? rest
  else if c = ')' then s.closeGroup?.map fun s => (s, rest)
  else if c = '|' then some (s.branch, rest)
  else if c = '[' then
    (Class.read? s.flags rest).map fun r =>
      (s.push { Piece.ofSet r.1.set with height := r.1.height }, r.2)
  else if c = '?' then (s.repeatLast? 0 (some 1)).map fun s => (s, dropLazy rest)
  else if c = '*' then (s.repeatLast? 0 none).map fun s => (s, dropLazy rest)
  else if c = '+' then (s.repeatLast? 1 none).map fun s => (s, dropLazy rest)
  else if c = '\x7b' then do
    let (low, high, rest) ← bounds? s.flags rest
    let s ← s.repeatLast? low high
    return (s, dropLazy (s.flags.skip rest))
  else if c = '\\' then do
    let (a, rest) ← Escape.read? s.flags rest
    return (s.push (← Piece.ofAtom? s.flags a), rest)
  else if c = '.' then (Piece.ofPoint? s.flags).map fun p => (s.push p, rest)
  else if c = '^' then some (s.push (Piece.ofCaret s.flags), rest)
  else if c = '$' then some (s.push (Piece.ofDollar s.flags), rest)
  else some (s.push (Piece.ofChar s.flags c), rest)

/-- Reads the rest of a pattern. -/
def run : Nat → Parse → List Char → Option Piece
  | 0, _, _ => none
  | fuel + 1, s, text =>
    match s.flags.skip text with
    | [] => if s.outer.isEmpty then some s.body else none
    | c :: rest =>
      match s.step? c rest with
      | none => none
      | some (s, rest) => run fuel s rest

end Parse

/-- The regular expression that a pattern stands for, or nothing if it stands for none or is nested
too deep. -/
def read? (pattern : String) : Option Regex := do
  let text := pattern.toList
  let p ← Parse.run (text.length + 1) {} text
  if p.height ≤ maxHeight then return p.regex else none

/-- The regular expression of a pattern that is looked for, where `fits` says for which patterns
what is built to look for them is small enough. -/
def compile? (fits : String → Bool) (pattern : String) : Option Regex :=
  if fits pattern then read? pattern else none

/-- Whether a pattern is found somewhere in a text, or nothing if it cannot be looked for. -/
def isFoundIn? (fits : String → Bool) (pattern text : String) : Option Bool :=
  (compile? fits pattern).map fun r => r.isFoundIn text.toList.toArray

end BlackBox.Pattern
