/-!
# White space

The characters with the Unicode property `White_Space`, and the words between them.
-/

namespace BlackBox.Text

/-- Whether a character has the Unicode property `White_Space`. -/
def isBlank (c : Char) : Bool :=
  let n := c.toNat
  (0x09 ≤ n && n ≤ 0x0D) || n == 0x20 || n == 0x85 || n == 0xA0 || n == 0x1680 ||
    (0x2000 ≤ n && n ≤ 0x200A) || n == 0x2028 || n == 0x2029 || n == 0x202F ||
    n == 0x205F || n == 0x3000

/-- Adds a character in front of the fields of a text: white space opens a new field, and any
other character belongs to the field that follows it. -/
def attachField (c : Char) (fields : List (List Char)) : List (List Char) :=
  if isBlank c then [] :: fields
  else match fields with
    | [] => [[c]]
    | f :: fs => (c :: f) :: fs

/-- The text cut at each white space character; adjacent ones have an empty field between them. -/
def fields (s : List Char) : List (List Char) :=
  s.foldr attachField [[]]

/-- Fields are built from the end of the text, one character at a time. -/
theorem fields_cons (c : Char) (s : List Char) :
    fields (c :: s) = attachField c (fields s) := by
  rw [fields, List.foldr_cons, ← fields]

/-- The words of a text: its longest runs of characters that are not white space, in order. -/
def words (s : List Char) : List (List Char) :=
  (fields s).filter fun f => !f.isEmpty

/-- The words of a text, as texts. -/
def splitWords (text : String) : List String :=
  (words text.toList).map String.ofList

end BlackBox.Text
