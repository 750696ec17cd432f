import BlackBox.Yaml.Grammar
import BlackBox.Yaml.Resolve
import BlackBox.Yaml.Scan

/-!
# Reading documents

`read` is the value of a text: its tokens are read as a document, and the nodes of the document as
values. A document without a node is null. Documents whose nodes are nested too deep, or whose
aliases are followed too often, have no value, and neither has a mapping with a key that occurs
twice.
-/

namespace BlackBox.Yaml

namespace Document

/-- How often aliases may be followed, for each unit of the size of a document. -/
def followsPerUnit : Nat := 100

/-- A computation that follows aliases a limited number of times; its state is the number of times
left. -/
abbrev Composer := StateT Nat Option

/-- The node that an alias stands for; other nodes stand for themselves. A node reached by an alias
is no longer the first part of something with a tag. -/
def follow (d : Document) (tagged : Bool) : Node → Composer (Bool × Node)
  | .alias anchor => do
    let left ← get
    if left = 0 then failure
    set (left - 1)
    let some n := d.anchored.lookup anchor | failure
    return (false, n)
  | n => return (tagged, n)

/-- Puts a local tag on a value. -/
def attachTag (name : Option String) (v : Value) : Value :=
  match name with
  | some tag => .tagged tag v
  | none => v

/-- The value of a node with at most `depth` levels of sequences and mappings in it. `tagged` says
that the node is the first part of something with a local tag, where no further tag counts. -/
def compose (d : Document) : Nat → Bool → Node → Composer Value
  | depth, tagged, node => do
    let (tagged, node) ← d.follow tagged node
    match depth, node with
    | _, .alias _ => failure
    | _, .scalar tag text plain =>
      let name := if tagged then none else tag.bind Scalar.localName?
      let tag := if tagged || name.isSome then none else tag
      let some v := Scalar.value? tag text plain | failure
      return attachTag name v
    | 0, _ => failure
    | depth + 1, .sequence tag items =>
      let name := if tagged then none else tag.bind Scalar.localName?
      return attachTag name (.sequence (← items.mapM (compose d depth false)))
    | depth + 1, .mapping tag entries =>
      let name := if tagged then none else tag.bind Scalar.localName?
      let entries ← entries.mapM fun e => do
        let key ← compose d depth (tagged || name.isSome) e.1
        return (key, ← compose d depth false e.2)
      if Value.distinctKeys entries then return attachTag name (.mapping entries) else failure

/-- The value of a document. -/
def value? (d : Document) : Option Value :=
  ((d.compose maxDepth false d.root).run (followsPerUnit * d.size)).map Prod.fst

end Document

/-- The value of a text, or nothing if it is not one well-formed document. -/
def read (text : String) : Option Value := do
  let tokens ← tokens? text
  if tokens.isEmpty then return .null
  else (← Document.ofTokens? tokens).value?

end BlackBox.Yaml
