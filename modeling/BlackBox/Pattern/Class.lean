import BlackBox.Pattern.Escape

/-!
# Sets in brackets

A set in brackets is a union of characters, ranges, escapes, named ASCII sets and further sets in
brackets, and between unions there may be operators, which all bind alike and to the left. Brackets
that are open are kept in a list, the innermost first, so that reading goes through the text once.
-/

namespace BlackBox.Pattern.Class

open Unicode (CharSet)

/-- A set that has been read, and how deep its parts are nested. -/
structure Part where
  /-- The characters. -/
  set : CharSet
  /-- The depth of nesting. -/
  height : Nat := 0

/-- An operator between sets. -/
inductive Op where
  /-- The characters in both sets. -/
  | inter
  /-- The characters in the first set and not in the second. -/
  | diff
  /-- The characters in one set but not in both. -/
  | symmDiff

/-- The result of an operator. -/
def Op.apply : Op → CharSet → CharSet → CharSet
  | inter => .inter
  | diff => .diff
  | symmDiff => .symmDiff

/-- A bracket that is open. -/
structure Level where
  /-- Whether the set is the complement of what is in the brackets. -/
  negated : Bool
  /-- The operator before the current union, with the set to its left. -/
  pending : Option (Op × Part) := none
  /-- The parts of the current union, the last one first. -/
  parts : List Part := []

/-- The letters of ASCII that differ from a member of a set in case alone, and the set. -/
def asciiClosure (s : CharSet) : CharSet :=
  let swapped := (List.range 26).flatMap fun i =>
    (if s.containsCode (0x41 + i) then [0x61 + i] else []) ++
      (if s.containsCode (0x61 + i) then [0x41 + i] else [])
  .union s (.ranges (Unicode.Ranges.ofCodes swapped))

/-- A set with what the flags add to it: variants in case, if case makes no difference. -/
def fold (f : Flags) (s : CharSet) : CharSet :=
  if f.caseless then (if f.unicode then Unicode.closure s else asciiClosure s) else s

/-- The complement of a set, if that is asked for. Among bytes there is none, since it would hold
bytes that are no characters. -/
def complement? (f : Flags) (negated : Bool) (s : CharSet) : Option CharSet :=
  if negated then (if f.unicode then some (.compl s) else none) else some s

namespace Level

/-- Adds a part to the current union. -/
def add (l : Level) (p : Part) : Level := { l with parts := p :: l.parts }

/-- The current union. -/
def union (l : Level) : Part :=
  match l.parts with
  | [] => ⟨.empty, 0⟩
  | [p] => p
  | ps => ⟨ps.foldl (fun s p => .union p.set s) .empty, (ps.map Part.height).foldl max 0 + 1⟩

/-- Everything in the brackets so far. -/
def value (f : Flags) (l : Level) : Part :=
  let right := l.union
  match l.pending with
  | none => right
  | some (op, left) =>
    ⟨op.apply (fold f left.set) (fold f right.set), max left.height right.height + 1⟩

/-- Reads an operator: what has been read so far is to its left. -/
def operator (f : Flags) (l : Level) (op : Op) : Level :=
  { l with pending := some (op, l.value f), parts := [] }

/-- The set of the brackets, when they are closed. -/
def close? (f : Flags) (l : Level) : Option Part :=
  let v := l.value f
  (complement? f l.negated (fold f v.set)).map fun s => ⟨s, v.height + 1⟩

end Level

/-! ## Items -/

/-- The named sets of ASCII characters. -/
def asciiSets : List (String × Unicode.Ranges) := [
  ("alnum", [(0x30, 0x39), (0x41, 0x5A), (0x61, 0x7A)]), ("alpha", [(0x41, 0x5A), (0x61, 0x7A)]),
  ("ascii", [(0x00, 0x7F)]), ("blank", [(0x09, 0x09), (0x20, 0x20)]),
  ("cntrl", [(0x00, 0x1F), (0x7F, 0x7F)]), ("digit", [(0x30, 0x39)]), ("graph", [(0x21, 0x7E)]),
  ("lower", [(0x61, 0x7A)]), ("print", [(0x20, 0x7E)]),
  ("punct", [(0x21, 0x2F), (0x3A, 0x40), (0x5B, 0x60), (0x7B, 0x7E)]),
  ("space", [(0x09, 0x0D), (0x20, 0x20)]), ("upper", [(0x41, 0x5A)]),
  ("word", [(0x30, 0x39), (0x41, 0x5A), (0x5F, 0x5F), (0x61, 0x7A)]),
  ("xdigit", [(0x30, 0x39), (0x41, 0x46), (0x61, 0x66)])]

/-- Reads a named ASCII set, after its opening bracket: whether it is a complement, its characters
and what is left. -/
def asciiSet? : List Char → Option (Bool × CharSet × List Char)
  | ':' :: rest =>
    let negated := rest.head? == some '^'
    let rest := if negated then rest.drop 1 else rest
    let name := rest.takeWhile (· != ':')
    match rest.dropWhile (· != ':') with
    | ':' :: ']' :: rest =>
      (asciiSets.lookup (String.ofList name)).map fun rs => (negated, .ranges rs, rest)
    | _ => none
  | _ => none

/-- Reads an escape or a character that stands for itself. -/
def atom? (f : Flags) : List Char → Option (Atom × List Char)
  | [] => none
  | '\\' :: rest => Escape.read? f rest
  | c :: rest => some (.char c false, rest)

/-- Whether a character may be in a set: where sets are sets of bytes only ASCII can be. -/
def admits (f : Flags) (c : Char) : Bool := f.unicode || c.toNat < 0x80

/-- The set of an atom. A condition is none. -/
def setOf? (f : Flags) : Atom → Option CharSet
  | .char c _ => if admits f c then some (.single c) else none
  | .set s => some s
  | .look _ => none

/-- The character after a hyphen that decides whether the hyphen makes a range. White space and the
sign of a comment are passed over where they count for nothing. -/
def afterHyphen (f : Flags) (rest : List Char) : Option Char :=
  if f.spaced then
    match rest.dropWhile Text.isBlank with
    | '#' :: rest => (rest.dropWhile Text.isBlank).head?
    | rest => rest.head?
  else rest.head?

/-- Reads a range, or an item that is none. -/
def item? (f : Flags) (text : List Char) : Option (CharSet × List Char) := do
  let (first, rest) ← atom? f text
  match f.skip rest with
  | [] => none
  | '-' :: rest' =>
    let next := afterHyphen f rest'
    if next = some ']' ∨ next = some '-' then return (← setOf? f first, '-' :: rest')
    else
      let (last, rest) ← atom? f (f.skip rest')
      match first, last with
      | .char c _, .char d _ =>
        if admits f c && admits f d && c ≤ d then return (.interval c d, rest) else none
      | _, _ => none
  | rest => return (← setOf? f first, rest)

/-! ## Brackets -/

/-- Reads the hyphens at the beginning of a set, after the given ones. -/
def hyphens (f : Flags) : Nat → List Part → List Char → List Part × List Char
  | 0, parts, text => (parts, text)
  | fuel + 1, parts, text =>
    match text with
    | '-' :: rest => hyphens f fuel (⟨.single '-', 0⟩ :: parts) (f.skip rest)
    | text => (parts, text)

/-- Reads the beginning of a set, after its opening bracket: the sign of a complement, hyphens, and
a closing bracket that comes first and stands for itself. -/
def open? (f : Flags) (text : List Char) : Level × List Char :=
  let text := f.skip text
  let negated := text.head? == some '^'
  let text := if negated then f.skip (text.drop 1) else text
  let (parts, text) := hyphens f text.length [] text
  match parts, text with
  | [], ']' :: rest => (⟨negated, none, [⟨.single ']', 0⟩]⟩, f.skip rest)
  | _, _ => (⟨negated, none, parts⟩, text)

/-- Reads up to the bracket that closes the outermost open one. -/
def body (f : Flags) : Nat → Level → List Level → List Char → Option (Part × List Char)
  | 0, _, _, _ => none
  | fuel + 1, level, outer, text =>
    match f.skip text with
    | [] => none
    | '[' :: rest =>
      match asciiSet? rest with
      | some (negated, s, rest) => do
        let s ← complement? f negated (fold f s)
        body f fuel (level.add ⟨s, 0⟩) outer rest
      | none =>
        let (inner, rest) := open? f rest
        body f fuel inner (level :: outer) rest
    | ']' :: rest => do
      let p ← level.close? f
      match outer with
      | [] => return (p, rest)
      | l :: outer => body f fuel (l.add p) outer rest
    | '&' :: '&' :: rest => body f fuel (level.operator f .inter) outer rest
    | '-' :: '-' :: rest => body f fuel (level.operator f .diff) outer rest
    | '~' :: '~' :: rest => body f fuel (level.operator f .symmDiff) outer rest
    | text => do
      let (s, rest) ← item? f text
      body f fuel (level.add ⟨s, 0⟩) outer rest

/-- Reads a set in brackets, after its opening bracket. -/
def read? (f : Flags) (text : List Char) : Option (Part × List Char) :=
  let (level, rest) := open? f text
  body f (rest.length + 1) level [] rest

end BlackBox.Pattern.Class
