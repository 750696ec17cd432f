import BlackBox.Number.Layout

/-!
# Values

What a document means: null, truth values, numbers, text, sequences, mappings, and values with a
local tag. Mappings keep the order of the document, but two mappings are the same if they have the
same entries.
-/

namespace BlackBox.Yaml

/-- A value. -/
inductive Value where
  /-- The null value. -/
  | null
  /-- A truth value. -/
  | bool (b : Bool)
  /-- A whole number. -/
  | int (n : Int)
  /-- A floating-point number. -/
  | float (x : Number.Binary64)
  /-- A text. -/
  | string (s : String)
  /-- A sequence of values. -/
  | sequence (items : List Value)
  /-- A mapping, as its keys with their values in document order. -/
  | mapping (entries : List (Value × Value))
  /-- A value with a local tag, of which the name is given without its exclamation mark. -/
  | tagged (tag : String) (value : Value)
  deriving Repr, Inhabited

namespace Value

mutual

/-- Whether two values are the same. A whole number is never the same as a floating-point one. -/
def same : Value → Value → Bool
  | null, null => true
  | bool a, bool b => a == b
  | int m, int n => m == n
  | float x, float y => x.same y
  | string s, string t => s == t
  | sequence as, sequence bs => sameItems as bs
  | mapping as, mapping bs => as.length == bs.length && sameEntries as bs
  | tagged s a, tagged t b => s == t && same a b
  | _, _ => false

/-- Whether two sequences have the same items. -/
def sameItems : List Value → List Value → Bool
  | [], [] => true
  | a :: as, b :: bs => same a b && sameItems as bs
  | _, _ => false

/-- Whether every entry of the first mapping is in the second. -/
def sameEntries : List (Value × Value) → List (Value × Value) → Bool
  | [], _ => true
  | (k, v) :: as, bs => bs.any (fun b => same k b.1 && same v b.2) && sameEntries as bs

end

/-- Whether no two entries have the same key. -/
def distinctKeys : List (Value × Value) → Bool
  | [] => true
  | (k, _) :: entries => !entries.any (fun e => same k e.1) && distinctKeys entries

/-- The value of a key in a mapping. -/
def lookup (key : String) (entries : List (Value × Value)) : Option Value :=
  (entries.find? fun e => same (string key) e.1).map Prod.snd

end Value

end BlackBox.Yaml
