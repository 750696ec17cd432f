import BlackBox.Yaml.Node

/-!
# From tokens to nodes

`Document.ofTokens?` reads a list of tokens as a document. There is one reader for each form of a
node; readers are given the reader for the nodes inside, so that only `node` is recursive, and that
on the depth to which nodes may be nested.

Anchors are numbered as they occur: an anchor gets the number of different names before it. So
anchors may share a number when names are used again. An alias refers to the last node with the
number that its name had when the alias was read.
-/

namespace BlackBox.Yaml

/-- The state of reading a document. -/
structure Builder where
  /-- The tokens that are left. -/
  tokens : List Token
  /-- What tag handles stand for. -/
  handles : List (String × TagBytes) := []
  /-- The number of the anchor that each name stands for, the latest first. -/
  names : List (String × Nat) := []
  /-- The number of different names. -/
  distinct : Nat := 0
  /-- For each anchor the position of its node among the anchored ones, the latest first. -/
  anchors : List (Nat × Nat) := []
  /-- The anchored nodes that have been read, by their position. -/
  nodes : List (Nat × Node) := []
  /-- The size of the document so far. -/
  size : Nat := 0

/-- A reader of some tokens. -/
abbrev Reader := StateT Builder Option

namespace Reader

/-- The next token. -/
def peek : Reader (Option Token) := do
  return (← get).tokens.head?

/-- Skips a token. -/
def skip : Reader Unit :=
  modify fun b => { b with tokens := b.tokens.tail }

/-- Whether the next token is one of some. -/
def next (ts : List Token) : Reader Bool := do
  return (← peek).any ts.contains

/-- Reads a token if it is the next one, and says whether it is. -/
def accept (t : Token) : Reader Bool := do
  if ← next [t] then
    skip
    return true
  else return false

/-- Reads a token that must be the next one. -/
def expect (t : Token) : Reader Unit := do
  unless ← accept t do failure

/-- Adds to the size of the document. -/
def grow (n : Nat) : Reader Unit :=
  modify fun b => { b with size := b.size + n }

/-- Reads items until there are no more, after the given ones in reverse. The reader of an item is
told whether the item is the first. -/
def many {α : Type} (item : Bool → Reader (Option α)) : Nat → List α → Reader (List α)
  | 0, _ => failure
  | fuel + 1, acc => do
    match ← item acc.isEmpty with
    | some a => many item fuel (a :: acc)
    | none => return acc.reverse

/-- Reads all items; each of them takes at least one token. -/
def all {α : Type} (item : Bool → Reader (Option α)) : Reader (List α) := do
  many item ((← get).tokens.length + 1) []

/-! ## Anchors and tags -/

/-- Gives an anchor its number, before its node is read: the position of the node. -/
def openAnchor (name : String) : Reader Nat := do
  let b ← get
  let position := b.anchors.length
  set { b with
    names := (name, b.distinct) :: b.names
    distinct := if (b.names.lookup name).isSome then b.distinct else b.distinct + 1
    anchors := (b.distinct, position) :: b.anchors }
  return position

/-- Keeps an anchored node. -/
def closeAnchor (position : Option Nat) (n : Node) : Reader Node := do
  if let some i := position then
    modify fun b => { b with nodes := (i, n) :: b.nodes }
  return n

/-- The node that an alias stands in for. -/
def aliasOf (name : String) : Reader Node := do
  let some number := (← get).names.lookup name | failure
  grow 1
  return .alias number

/-- The bytes of a tag, given by its handle and the rest. -/
def tagOf (handle : String) (suffix : TagBytes) : Reader TagBytes := do
  if handle.isEmpty then return suffix
  let some expansion := (← get).handles.lookup handle | failure
  return expansion ++ suffix

/-- Reads an anchor, if there is one. -/
def anchor? : Reader (Option String) := do
  let some (.anchor name) ← peek | return none
  skip
  return some name

/-- Reads a tag, if there is one. -/
def tag? : Reader (Option TagBytes) := do
  let some (.tag handle suffix) ← peek | return none
  skip
  return some (← tagOf handle suffix)

/-- Reads the anchor and the tag of a node, in either order. -/
def properties : Reader (Option String × Option TagBytes) := do
  match ← anchor? with
  | some a => return (some a, ← tag?)
  | none =>
    match ← tag? with
    | some t => return (← anchor?, some t)
    | none => return (none, none)

/-! ## Forms of nodes -/

/-- A scalar that is left out. -/
def emptyScalar (tag : Option TagBytes) : Reader Node := do
  grow 1
  return .scalar tag "" true

/-- Reads a node, unless one of some tokens is next, in front of which it is left out. -/
def orEmpty (ts : List Token) (node : Reader Node) : Reader Node := do
  if ← next ts then emptyScalar none else node

/-- Reads the value of a key, which may be left out. -/
def valueOrEmpty (ts : List Token) (node : Reader Node) : Reader Node := do
  if ← accept .value then orEmpty ts node else emptyScalar none

/-- Reads an item of a sequence written by indentation, or the end of the sequence. -/
def blockItem (node : Reader Node) : Reader (Option Node) := do
  if ← accept .item then return some (← orEmpty [.item, .blockEnd] node)
  else
    expect .blockEnd
    return none

/-- Reads an item of a sequence that is indented no further than the mapping around it. -/
def indentlessItem (node : Reader Node) : Reader (Option Node) := do
  if ← accept .item then return some (← orEmpty [.item, .key, .value, .blockEnd] node)
  else return none

/-- Reads an entry of a mapping written by indentation, or the end of the mapping. -/
def blockEntry (node : Reader Node) : Reader (Option (Node × Node)) := do
  if ← accept .key then
    let ends := [.key, .value, .blockEnd]
    return some (← orEmpty ends node, ← valueOrEmpty ends node)
  else
    expect .blockEnd
    return none

/-- Reads the one entry of a mapping that stands in a sequence without braces. Where its key is
left out, the token in place of the key is passed over. -/
def flowPair (node : Reader Node) : Reader Node := do
  grow 2
  let key ←
    if ← next [.value, .comma, .flowSequenceEnd] then
      skip
      emptyScalar none
    else node
  return .mapping none [(key, ← valueOrEmpty [.comma, .flowSequenceEnd] node)]

/-- Reads an item of a sequence in brackets, or the end of the sequence. -/
def flowItem (node : Reader Node) (first : Bool) : Reader (Option Node) := do
  if ← accept .flowSequenceEnd then return none
  if !first then expect .comma
  if ← accept .key then return some (← flowPair node)
  else if ← accept .flowSequenceEnd then return none
  else return some (← node)

/-- Reads an entry of a mapping in braces, or the end of the mapping. -/
def flowEntry (node : Reader Node) (first : Bool) : Reader (Option (Node × Node)) := do
  if ← accept .flowMappingEnd then return none
  if !first then expect .comma
  if ← accept .key then
    let ends := [.comma, .flowMappingEnd]
    return some (← orEmpty (.value :: ends) node, ← valueOrEmpty ends node)
  else if ← accept .flowMappingEnd then return none
  else return some (← node, ← emptyScalar none)

/-- Reads a sequence. -/
def sequence (tag : Option TagBytes) (item : Bool → Reader (Option Node)) : Reader Node := do
  grow 2
  return .sequence tag (← all item)

/-- Reads a mapping. -/
def mapping (tag : Option TagBytes) (entry : Bool → Reader (Option (Node × Node))) :
    Reader Node := do
  grow 2
  return .mapping tag (← all entry)

/-- Reads what follows the anchor and the tag of a node. `block` and `indentless` say whether the
node may be written by indentation, and whether it may be a sequence that is not indented. `inner`
reads the nodes inside, by the same two choices. -/
def content (block indentless named : Bool) (tag : Option TagBytes)
    (inner : Bool → Bool → Reader Node) : Reader Node := do
  match ← peek with
  | some .item =>
    if indentless then sequence tag fun _ => indentlessItem (inner true false)
    else if named then emptyScalar tag
    else failure
  | some (.scalar text plain) =>
    skip
    grow 1
    return .scalar tag text plain
  | some .flowSequence =>
    skip
    sequence tag (flowItem (inner false false))
  | some .flowMapping =>
    skip
    mapping tag (flowEntry (inner false false))
  | some .blockSequence =>
    if block then
      skip
      sequence tag fun _ => blockItem (inner true false)
    else if named then emptyScalar tag
    else failure
  | some .blockMapping =>
    if block then
      skip
      mapping tag fun _ => blockEntry (inner true true)
    else if named then emptyScalar tag
    else failure
  | _ => if named then emptyScalar tag else failure

/-- Reads a node. -/
def node : Nat → Bool → Bool → Reader Node
  | 0, _, _ => failure
  | depth + 1, block, indentless => do
    if let some (.alias name) ← peek then
      skip
      aliasOf name
    else
      let (anchor, tag) ← properties
      let position ← anchor.mapM openAnchor
      let named := anchor.isSome || tag.isSome
      closeAnchor position (← content block indentless named tag (node depth))

/-! ## Documents -/

/-- What tag handles stand for in every document that does not say otherwise. -/
def defaultHandles : List (String × TagBytes) := [
  ("!", "!".toUTF8.toList), ("!!", "tag:yaml.org,2002:".toUTF8.toList)]

/-- Reads the directives of a document, after those given: whether there was a version, and what
tag handles stand for. The version has to be 1.1 or 1.2, and nothing may be declared twice. -/
def directives : Nat → Bool → List (String × TagBytes) → Reader (Bool × List (String × TagBytes))
  | 0, _, _ => failure
  | fuel + 1, versioned, handles => do
    match ← peek with
    | some (.version major minor) =>
      if versioned || major != 1 || !(minor == 1 || minor == 2) then failure
      skip
      directives fuel true handles
    | some (.handle name expansion) =>
      if (handles.lookup name).isSome then failure
      skip
      directives fuel versioned ((name, expansion) :: handles)
    | _ => return (versioned, handles)

/-- Reads the only document of a stream. A document with directives has to be marked. -/
def document (depth : Nat) : Reader Node := do
  let (versioned, handles) ← directives ((← get).tokens.length + 1) false []
  modify fun b => { b with handles := handles ++ defaultHandles }
  let root ←
    if ← accept .documentStart then
      let b ← get
      let absent := match b.tokens.head? with
        | none | some .documentStart | some .documentEnd => true
        | some (.version ..) | some (.handle ..) => true
        | _ => false
      if absent then emptyScalar none else node depth true false
    else if versioned || !handles.isEmpty then failure
    else node depth true false
  modify fun b => { b with tokens := b.tokens.dropWhile (· == .documentEnd) }
  unless (← get).tokens.isEmpty do failure
  return root

end Reader

/-- The depth to which nodes are read. Documents nested further have no meaning. -/
def maxDepth : Nat := 128

/-- Reads tokens as a document. -/
def Document.ofTokens? (tokens : List Token) : Option Document := do
  let (root, b) ← (Reader.document (maxDepth + 1)).run { tokens }
  let anchored := b.anchors.filterMap fun a => (b.nodes.lookup a.2).map fun n => (a.1, n)
  return { root, anchored, size := b.size }

end BlackBox.Yaml
