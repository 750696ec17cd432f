import BlackBox.Unicode.CharSet
import BlackBox.Unicode.CategoryTable
import BlackBox.Unicode.ScriptTable
import BlackBox.Unicode.ScriptExtensionTable
import BlackBox.Unicode.AgeTable
import BlackBox.Unicode.PropertyTable
import BlackBox.Unicode.SegmentTable

/-!
# Properties by name

The set of characters that a property name, or a property name with a value, stands for. Names are
compared loosely: case, spaces, hyphens, underscores and a leading `is` make no difference.
`named?` reads a single name, which may be a binary property, a general category or a script, and
`valued?` reads a name with a value.
-/

namespace BlackBox.Unicode

/-- A name as it is compared: without a leading `is`, spaces, hyphens, underscores and characters
outside ASCII, in lower case. The name `isc` keeps its prefix, which is part of a property's
name. -/
def looseName (name : String) : String :=
  let cs := name.toList
  let lead := (cs.take 2).map Char.toLower = ['i', 's']
  let kept := ((if lead then cs.drop 2 else cs).filter fun c =>
    c.toNat < 0x80 && c != ' ' && c != '_' && c != '-').map Char.toLower
  if lead ∧ kept = ['c'] then "isc" else String.ofList kept

/-- The ranges of the table entry that carries a loose name. -/
def row? (table : List (List String × String)) (name : String) : Option CharSet :=
  (table.find? fun e => e.1.contains name).map fun e => .ranges (Ranges.ofText e.2)

/-- The union of sets. -/
def unionOf (sets : List CharSet) : CharSet :=
  sets.foldr .union .empty

/-! ## General categories -/

/-- The general categories that stand for several two-letter ones: their names, and the names of
their parts. -/
def categoryGroups : List (List String × List String) := [
  (["lc", "casedletter"], ["lu", "ll", "lt"]),
  (["l", "letter"], ["lu", "ll", "lt", "lm", "lo"]),
  (["m", "mark", "combiningmark"], ["mn", "mc", "me"]),
  (["n", "number"], ["nd", "nl", "no"]),
  (["p", "punctuation", "punct"], ["pc", "pd", "ps", "pe", "pi", "pf", "po"]),
  (["s", "symbol"], ["sm", "sc", "sk", "so"]),
  (["z", "separator"], ["zs", "zl", "zp"])]

/-- The code points that are reserved for surrogates. -/
def surrogates : CharSet := .ranges [(0xD800, 0xDFFF)]

/-- The characters of some two-letter general categories. -/
def categories (names : List String) : CharSet :=
  unionOf (names.filterMap (row? categoryTable))

/-- The characters to which a general category other than `Cn` is assigned. -/
def assigned : CharSet :=
  .union surrogates (unionOf (categoryTable.map fun e => .ranges (Ranges.ofText e.2)))

/-- The characters of a general category, with the sets of all, of the assigned and of the ASCII
characters under their own names. Surrogates have no set. -/
def category? (name : String) : Option CharSet :=
  if name = "any" then some .all
  else if name = "assigned" then some assigned
  else if name = "ascii" then some (.ranges [(0, 0x7F)])
  else if name = "cn" ∨ name = "unassigned" then some (.compl assigned)
  else if name = "c" ∨ name = "other" then
    some (.union (.compl assigned) (.union surrogates (categories ["cc", "cf", "co"])))
  else match categoryGroups.find? fun g => g.1.contains name with
    | some g => some (categories g.2)
    | none => row? categoryTable name

/-! ## Scripts -/

/-- The characters of a script. -/
def script? (name : String) : Option CharSet :=
  if name = "zzzz" ∨ name = "unknown" then
    some (.compl (unionOf (scriptTable.map fun e => .ranges (Ranges.ofText e.2))))
  else row? scriptTable name

/-- The characters that a script is used with. -/
def scriptExtension? (name : String) : Option CharSet := do
  let base ← script? name
  let names := ((scriptTable.find? fun e => e.1.contains name).map Prod.fst).getD []
  if names.contains "zyyy" || names.contains "zinh" then
    let shared := scriptExtensionTable.map fun e => .ranges (Ranges.ofText e.2)
    return .diff base (unionOf shared)
  else
    let further := scriptExtensionTable.filter fun e => e.1.any names.contains
    return .union base (unionOf (further.map fun e => .ranges (Ranges.ofText e.2)))

/-! ## Lookup -/

/-- The characters that were assigned in some version of the standard or before it. -/
def age? (version : String) : Option CharSet := do
  let i ← ageTable.findIdx? fun e => e.1.contains version
  return unionOf ((ageTable.take (i + 1)).map fun e => .ranges (Ranges.ofText e.2))

/-- The set that a single name stands for. -/
def named? (name : String) : Option CharSet :=
  let name := looseName name
  match row? propertyTable name with
  | some s => some s
  | none => match category? name with
    | some s => some s
    | none => script? name

/-- The set that a property name with a value stands for. -/
def valued? (property value : String) : Option CharSet :=
  let property := looseName property
  let value := looseName value
  if property = "gc" ∨ property = "generalcategory" then category? value
  else if property = "sc" ∨ property = "script" then script? value
  else if property = "scx" ∨ property = "scriptextensions" then scriptExtension? value
  else if property = "age" then age? value
  else if property = "gcb" ∨ property = "graphemeclusterbreak" then row? graphemeBreakTable value
  else if property = "wb" ∨ property = "wordbreak" then row? wordBreakTable value
  else if property = "sb" ∨ property = "sentencebreak" then row? sentenceBreakTable value
  else none

/-! ## Sets in frequent use -/

/-- The decimal digits. -/
def digit : CharSet := categories ["nd"]

/-- The white space characters. -/
def space : CharSet := (named? "whitespace").getD .empty

/-- The alphabetic characters. -/
def alphabetic : CharSet := (named? "alphabetic").getD .empty

/-- The alphabetic and the numeric characters. -/
def alphanumeric : CharSet := .union alphabetic (categories ["nd", "nl", "no"])

/-- The characters of words: letters, marks, decimal digits, connectors and joiners. -/
def wordChar : CharSet :=
  .union alphabetic (.union (categories ["nd", "mn", "mc", "me", "pc"])
    ((named? "joincontrol").getD .empty))

/-- The characters that continue the one before them in what a reader takes for one character. -/
def graphemeExtend : CharSet := (named? "graphemeextend").getD .empty

/-- The characters that are shown as they are in quoted text: the space, and every assigned
character that is not a control, a format character, private, or a separator. -/
def printable : CharSet :=
  .union (.single ' ') (categories ["lu", "ll", "lt", "lm", "lo", "mn", "mc", "me", "nd", "nl",
    "no", "pc", "pd", "ps", "pe", "pi", "pf", "po", "sm", "sc", "sk", "so"])

end BlackBox.Unicode
