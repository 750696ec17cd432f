import BlackBox.Yaml.Token

/-!
# Nodes of a document

A document is a tree of scalars, sequences and mappings, some of which have a tag. An alias stands
in the tree for an anchored node, which it names by the number of the anchor.
-/

namespace BlackBox.Yaml

/-- A node of a document. -/
inductive Node where
  /-- A scalar, and whether it is written plainly. -/
  | scalar (tag : Option TagBytes) (text : String) (plain : Bool)
  /-- A sequence of nodes. -/
  | sequence (tag : Option TagBytes) (items : List Node)
  /-- A mapping, as its keys with their values in document order. -/
  | mapping (tag : Option TagBytes) (entries : List (Node × Node))
  /-- A reference to the node with a given anchor. -/
  | alias (anchor : Nat)
  deriving Repr

/-- A document. -/
structure Document where
  /-- The outermost node. -/
  root : Node
  /-- The nodes that aliases stand for, by the numbers of their anchors. -/
  anchored : List (Nat × Node)
  /-- The size of the document: one for each scalar and alias, and two for each sequence and
  mapping. -/
  size : Nat
  deriving Repr

end BlackBox.Yaml
