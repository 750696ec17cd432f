import BlackBox.Yaml.Directive
import BlackBox.Yaml.Scalar.Plain
import BlackBox.Yaml.Scalar.Quoted
import BlackBox.Yaml.Token

/-!
# From text to tokens

`tokens?` reads the text of a document as a list of tokens. Tokens are read one after another with
a state that holds the indentation of the block structure around them. That a node is a key becomes
known only at the colon after it, so the state remembers where the last node began that might be
one, for each level of brackets, and at the colon the key's token is inserted there.
-/

namespace BlackBox.Yaml

/-- The beginning of a node that may turn out to be a key. -/
structure KeyStart where
  /-- Whether nothing but a key may stand there. -/
  required : Bool
  /-- The number of tokens before the node. -/
  number : Nat
  /-- The number of characters before the node. -/
  index : Nat
  /-- The line of the node. -/
  line : Nat
  /-- The column of the node. -/
  column : Nat
  deriving Repr

/-- The state between two tokens. -/
structure Scan where
  /-- The position in the document. -/
  cursor : Cursor
  /-- The possible key at each level of brackets, the innermost level first. -/
  keys : List (Option KeyStart) := [none]
  /-- The column of the innermost block structure, or `-1` outside all of them. -/
  indent : Int := -1
  /-- The columns of the block structures around that one, the innermost first. -/
  outer : List Int := []
  /-- Whether a node that begins here may be a key. -/
  keyAllowed : Bool := true
  /-- The tokens so far, the last one first. -/
  tokens : List Token := []
  /-- The number of tokens so far. -/
  count : Nat := 0
  deriving Repr

namespace Scan

/-- Whether the position is inside brackets. -/
def flow (s : Scan) : Bool := 1 < s.keys.length

/-- Adds a token. -/
def push (s : Scan) (t : Token) : Scan :=
  { s with tokens := t :: s.tokens, count := s.count + 1 }

/-- Adds a token before which there are to be `number` others. -/
def insert (s : Scan) (number : Nat) (t : Token) : Scan :=
  { s with tokens := s.tokens.insertIdx (s.count - number) t, count := s.count + 1 }

/-- Moves the position. -/
def move (s : Scan) (p : Cursor) : Scan := { s with cursor := p }

/-- Adds a token of `n` characters at the position. -/
def take (s : Scan) (n : Nat) (t : Token) : Scan :=
  (s.move (s.cursor.skip n)).push t

/-- Says whether a node that begins next may be a key. -/
def allowKey (s : Scan) (b : Bool) : Scan := { s with keyAllowed := b }

/-! ## Possible keys -/

/-- Forgets the possible key of the current level. One that had to be a key is an error. -/
def dropKey (s : Scan) : Option Scan :=
  match s.keys with
  | some k :: keys => if k.required then none else some { s with keys := none :: keys }
  | _ => some s

/-- Remembers the position as the beginning of a possible key. -/
def saveKey (s : Scan) : Option Scan :=
  if s.keyAllowed then do
    let s ← s.dropKey
    let p := s.cursor
    let key : KeyStart := {
      required := !s.flow && s.indent == p.column
      number := s.count, index := p.index, line := p.line, column := p.column }
    return { s with keys := some key :: s.keys.tail }
  else some s

/-- The greatest number of characters from the beginning of a key to the colon after it. -/
def maxKeyLength : Nat := 1024

/-- Whether a possible key can no longer be one at a position: a key is on one line and short. -/
def stale (p : Cursor) (k : KeyStart) : Bool :=
  k.line < p.line || k.index + maxKeyLength < p.index

/-- Forgets the possible keys that can no longer be keys. One that had to be a key is an error. -/
def dropStale (s : Scan) : Option Scan :=
  if s.keys.any fun k => k.any fun k => stale s.cursor k && k.required then none
  else some { s with keys := s.keys.map (·.filter fun k => !stale s.cursor k) }

/-! ## Block structure -/

/-- Opens a block structure at a column to the right of the innermost one. Its token is added where
there are to be `number` tokens before it. -/
def roll (s : Scan) (column : Nat) (number : Nat) (t : Token) : Scan :=
  if !s.flow && s.indent < column then
    { s.insert number t with indent := column, outer := s.indent :: s.outer }
  else s

/-- Closes the block structures to the right of a column, given those around the innermost one. -/
def unrollFrom (column : Int) : List Int → Scan → Scan
  | [], s => s
  | i :: outer, s =>
    if column < s.indent then
      unrollFrom column outer { s.push .blockEnd with indent := i, outer }
    else s

/-- Closes the block structures to the right of a column. Inside brackets there are none. -/
def unroll (s : Scan) (column : Int) : Scan :=
  if s.flow then s else unrollFrom column s.outer s

/-- Opens a block structure at the position for a token that begins an item or a key of it. -/
def openBlock (s : Scan) (t : Token) : Option Scan :=
  if s.flow then some s
  else if s.keyAllowed then some (s.roll s.cursor.column s.count t)
  else none

/-! ## Tokens -/

/-- Skips white space and comments. Tabs are skipped where no block structure can begin. -/
def skipSpace : Nat → Scan → Scan
  | 0, s => s
  | fuel + 1, s =>
    let p := s.cursor
    let p := if p.index == 0 && p.rest.head? == some '\ufeff' then p.skip 1 else p
    let p := p.skipWhile fun c => c == ' ' || (c == '\t' && (s.flow || !s.keyAllowed))
    let p := if p.rest.head? == some '#' then p.skipWhile fun c => !isBreak c else p
    match p.readBreak? with
    | some (_, q) => skipSpace fuel { s with cursor := q, keyAllowed := s.keyAllowed || !s.flow }
    | none => s.move p

/-- Reads the end of the text. -/
def finish (s : Scan) : Option Scan := (s.unroll (-1)).dropKey

/-- Reads a directive. -/
def directive (limit : Nat) (s : Scan) : Option Scan := do
  let s ← (s.unroll (-1)).dropKey
  let (t, p) ← Directive.read? limit s.cursor
  return ((s.allowKey false).move p).push t

/-- Reads the mark of a document. -/
def documentMark (s : Scan) (t : Token) : Option Scan := do
  let s ← (s.unroll (-1)).dropKey
  return (s.allowKey false).take 3 t

/-- Reads an opening bracket, which may begin a key. -/
def openFlow (s : Scan) (t : Token) : Option Scan := do
  let s ← s.saveKey
  return ({ s with keys := none :: s.keys }.allowKey true).take 1 t

/-- Reads a closing bracket. -/
def closeFlow (s : Scan) (t : Token) : Option Scan := do
  let s ← s.dropKey
  let keys := if s.flow then s.keys.tail else s.keys
  return ({ s with keys }.allowKey false).take 1 t

/-- Reads a comma. -/
def comma (s : Scan) : Option Scan := do
  let s ← s.dropKey
  return (s.allowKey true).take 1 .comma

/-- Reads the hyphen of an item. -/
def item (s : Scan) : Option Scan := do
  let s ← s.openBlock .blockSequence
  let s ← s.dropKey
  return (s.allowKey true).take 1 .item

/-- Reads the question mark of a key. -/
def questionMark (s : Scan) : Option Scan := do
  let s ← s.openBlock .blockMapping
  let s ← s.dropKey
  return (s.allowKey (!s.flow)).take 1 .key

/-- Reads the colon before a value. If a possible key precedes it, that is one. -/
def colon (s : Scan) : Option Scan :=
  match s.keys with
  | some k :: keys =>
    let s := { s with keys := none :: keys }.insert k.number .key
    some (((s.roll k.column k.number .blockMapping).allowKey false).take 1 .value)
  | _ => do
    let s ← s.openBlock .blockMapping
    return (s.allowKey (!s.flow)).take 1 .value

/-- Reads an alias or an anchor, which may begin a key. -/
def name (s : Scan) (t : String → Token) : Option Scan := do
  let s ← s.saveKey
  let p := s.cursor.skip 1
  let q := p.skipWhile isName
  let ends := atGapOrEnd q.rest || q.rest.head?.any "?:,]\x7d%@\x60".toList.contains
  if q.index = p.index ∨ ¬ ends then none
  return ((s.allowKey false).move q).push (t (String.ofList (p.rest.take (q.index - p.index))))

/-- Reads a tag, which may begin a key. -/
def tag (limit : Nat) (s : Scan) : Option Scan := do
  let s ← s.saveKey
  let (t, p) ← Tag.read? s.flow limit s.cursor
  return ((s.allowKey false).move p).push t

/-- Reads a block scalar, which is never a key. -/
def blockScalar (limit : Nat) (s : Scan) (folded : Bool) : Option Scan := do
  let s ← s.dropKey
  let (text, p) ← Block.read folded s.indent limit s.cursor
  return ((s.allowKey true).move p).push (.scalar (String.ofList text) false)

/-- Reads a quoted scalar, which may be a key. -/
def quotedScalar (limit : Nat) (s : Scan) (double : Bool) : Option Scan := do
  let s ← s.saveKey
  let (text, p) ← Quoted.read double limit s.cursor
  return ((s.allowKey false).move p).push (.scalar (String.ofList text) false)

/-- Reads a plain scalar, which may be a key. After a line break a key may follow it. -/
def plainScalar (limit : Nat) (s : Scan) : Option Scan := do
  let s ← s.saveKey
  let r ← Plain.read s.flow (s.indent + 1) limit s.cursor
  return ((s.allowKey r.broken).move r.next).push (.scalar (String.ofList r.text) true)

/-- The characters that begin something other than a plain scalar. -/
def indicators : List Char := "-?:,[]\x7b\x7d#&*!|>'\"%@\x60".toList

/-- Whether a plain scalar begins with a character that the rest of the text follows. -/
def beginsPlain (flow : Bool) (c : Char) (rest : List Char) : Bool :=
  (isInk c && !indicators.contains c) || (c == '-' && !rest.head?.any isGap) ||
    (!flow && (c == '?' || c == ':') && !atGapOrEnd rest)

/-- Reads the token that the position stands before. -/
def token (limit : Nat) (s : Scan) (c : Char) (rest : List Char) : Option Scan :=
  let atEdge := atGapOrEnd rest
  if s.cursor.column == 0 && c == '%' then s.directive limit
  else if s.cursor.atDocumentMark then
    s.documentMark (if c == '-' then .documentStart else .documentEnd)
  else if c == '[' then s.openFlow .flowSequence
  else if c == '\x7b' then s.openFlow .flowMapping
  else if c == ']' then s.closeFlow .flowSequenceEnd
  else if c == '\x7d' then s.closeFlow .flowMappingEnd
  else if c == ',' then s.comma
  else if c == '-' && atEdge then s.item
  else if c == '?' && (s.flow || atEdge) then s.questionMark
  else if c == ':' && (s.flow || atEdge) then s.colon
  else if c == '*' then s.name .alias
  else if c == '&' then s.name .anchor
  else if c == '!' then s.tag limit
  else if c == '|' && !s.flow then s.blockScalar limit false
  else if c == '>' && !s.flow then s.blockScalar limit true
  else if c == '\'' then s.quotedScalar limit false
  else if c == '"' then s.quotedScalar limit true
  else if beginsPlain s.flow c rest then s.plainScalar limit
  else none

/-- Reads the tokens that are left. -/
def run (limit : Nat) : Nat → Scan → Option Scan
  | 0, _ => none
  | fuel + 1, s =>
    match (s.skipSpace limit).dropStale with
    | none => none
    | some s =>
      let s := s.unroll s.cursor.column
      match s.cursor.rest with
      | [] => s.finish
      | c :: rest =>
        match s.token limit c rest with
        | none => none
        | some s => run limit fuel s

end Scan

/-- The tokens of a document, or nothing if its text is malformed. No loop over the text takes more
steps than the text has characters, but for a last one at its end. -/
def tokens? (text : String) : Option (List Token) :=
  let cs := text.toList
  if cs.all admissible then
    let limit := cs.length + 2
    (Scan.run limit limit { cursor := ⟨cs, 0, 0, 0⟩ }).map fun s => s.tokens.reverse
  else none

end BlackBox.Yaml
