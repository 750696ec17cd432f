/-!
# Tokens of a document

The tokens that the text of a document is read as. Block structure, which the text shows by
indentation alone, appears in them as starts and ends.
-/

namespace BlackBox.Yaml

/-- The bytes of a tag or of a part of one. A tag may hold bytes that are no text, since it can
write any byte by its hexadecimal code. -/
abbrev TagBytes := List UInt8

/-- A token of a document. -/
inductive Token where
  /-- A declaration of the version of the language. -/
  | version (major minor : Nat)
  /-- A declaration of what a tag handle stands for. -/
  | handle (name : String) (expansion : TagBytes)
  /-- The line that begins a document. -/
  | documentStart
  /-- The line that ends a document. -/
  | documentEnd
  /-- The beginning of a sequence written by indentation. -/
  | blockSequence
  /-- The beginning of a mapping written by indentation. -/
  | blockMapping
  /-- The end of a sequence or mapping written by indentation. -/
  | blockEnd
  /-- The beginning of a sequence in brackets. -/
  | flowSequence
  /-- The end of a sequence in brackets. -/
  | flowSequenceEnd
  /-- The beginning of a mapping in braces. -/
  | flowMapping
  /-- The end of a mapping in braces. -/
  | flowMappingEnd
  /-- The hyphen of an item. -/
  | item
  /-- The comma between items. -/
  | comma
  /-- The beginning of a key, whether a question mark writes it or not. -/
  | key
  /-- The colon before a value. -/
  | value
  /-- A reference to an anchored node. -/
  | alias (name : String)
  /-- A name for the node that follows. -/
  | anchor (name : String)
  /-- A tag for the node that follows: its handle and the rest. -/
  | tag (handle : String) (suffix : TagBytes)
  /-- A scalar, and whether it is written plainly, without quotes or block indicators. -/
  | scalar (text : String) (plain : Bool)
  deriving Repr, DecidableEq

end BlackBox.Yaml
