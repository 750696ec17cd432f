import BlackBox.Text.Utf8

/-!
# Paths

The text of a path and what it denotes. The components of a path are what remains of it when
repeated separators and inner points are dropped; paths with the same components denote the same
file, and paths are ordered by their components. `display` shows a path the way reports do: without
the current directory, if the path is inside it.
-/

namespace BlackBox.Path

/-- A component of a path. The order of the constructors is the order of components. -/
inductive Component where
  /-- The root of the file system. -/
  | root
  /-- The current directory, as the first component of a relative path. -/
  | current
  /-- The directory above. -/
  | parent
  /-- An entry of a directory. -/
  | name (text : String)
  deriving Repr, DecidableEq

namespace Component

/-- The place of a component among the kinds of components. -/
def rank : Component → Nat
  | root => 0
  | current => 1
  | parent => 2
  | name _ => 3

/-- The order of components: by their kinds, and names by their bytes. -/
def compare : Component → Component → Ordering
  | name s, name t => Ord.compare s t
  | a, b => Ord.compare a.rank b.rank

/-- The component that a part of a path between separators stands for, if it is not dropped. -/
def ofPart? (part : List Char) : Option Component :=
  if part = [] ∨ part = ['.'] then none
  else if part = ['.', '.'] then some parent
  else some (name (String.ofList part))

/-- The text of a component. -/
def text : Component → String
  | root => "/"
  | current => "."
  | parent => ".."
  | name s => s

end Component

/-! ## Components -/

/-- Adds a character in front of the parts of a text: a separator begins a new part, and any other
character belongs to the part that follows it. -/
def attachPart (c : Char) (parts : List (List Char)) : List (List Char) :=
  if c = '/' then [] :: parts
  else match parts with
    | [] => [[c]]
    | p :: ps => (c :: p) :: ps

/-- The parts of a text between separators. -/
def parts (text : List Char) : List (List Char) :=
  text.foldr attachPart [[]]

/-- Parts are found from the end of the text, one character at a time. -/
theorem parts_cons (c : Char) (text : List Char) :
    parts (c :: text) = attachPart c (parts text) := by
  rw [parts, List.foldr_cons, ← parts]

/-- Whether a path begins at the root. -/
def isAbsolute (path : String) : Bool := path.toList.head? == some '/'

/-- The components of a path. -/
def components (path : String) : List Component :=
  let ps := parts path.toList
  let inner := ps.filterMap Component.ofPart?
  if isAbsolute path then .root :: inner
  else if ps.head? = some ['.'] then .current :: inner
  else inner

/-- The order of paths: component by component. -/
def compare (a b : String) : Ordering :=
  List.compareLex Component.compare (components a) (components b)

/-- Whether a path comes before another or has the same components. -/
def le (a b : String) : Bool := (compare a b).isLE

/-! ## Building paths -/

/-- A path that is followed from a directory. -/
def join (base path : String) : String :=
  if isAbsolute path || base.isEmpty then path
  else if base.toList.getLast? == some '/' then base ++ path
  else base ++ "/" ++ path

/-- A relative path with the given components; the current directory is not one of them. -/
def ofComponents (cs : List Component) : String :=
  "/".intercalate ((cs.filter (· != .current)).map Component.text)

/-! ## Displayed paths -/

/-- What follows the components `base` in a list that begins with them. -/
def below? : List Component → List Component → Option (List Component)
  | [], cs => some cs
  | b :: base, c :: cs => if b = c then below? base cs else none
  | _ :: _, [] => none

/-- A path as it is shown where `current` is the current directory: its components, if it is
relative; those below the current directory, if it is inside; its text otherwise. -/
def display (current path : String) : String :=
  if isAbsolute path then
    match below? (components current) (components path) with
    | some (.parent :: _) | none => path
    | some cs => ofComponents cs
  else ofComponents (components path)

/-- How a path is shown whose bytes may not be text. Only absolute paths are shown if they are
not. -/
def displayBytes (current : String) (path : ByteArray) : String :=
  match String.fromUTF8? path with
  | some text => display current text
  | none => if path.data[0]? == some 0x2F then Text.decodeLossy path else "<invalid path>"

end BlackBox.Path
