import BlackBox.Number.Digits
import BlackBox.Pattern.Flags
import BlackBox.Pattern.Regex
import BlackBox.Unicode.Fold

/-!
# Escapes

What a backslash and the characters after it stand for: a character, a condition on a position, or a
set of characters. Every function takes what follows and gives back what is left.
-/

namespace BlackBox.Pattern

open Unicode (CharSet)

/-- What an escape or a single character stands for. -/
inductive Atom where
  /-- A character, and whether it is written as a byte by two hexadecimal digits. -/
  | char (c : Char) (byte : Bool)
  /-- A condition on a position. -/
  | look (l : Look)
  /-- A set of characters. -/
  | set (s : CharSet)
  deriving Repr

namespace Escape

/-- Whether an escaped character stands for itself: any ASCII character other than letters, digits
and angle brackets. -/
def isLiteral (c : Char) : Bool :=
  c.toNat < 0x80 && !c.isAlphanum && c != '<' && c != '>'

/-- The characters that letters stand for. -/
def controls : List (Char × Char) := [
  ('a', '\x07'), ('f', '\x0c'), ('t', '\t'), ('n', '\n'), ('r', '\r'), ('v', '\x0b')]

/-! ## Code points -/

/-- Reads a number of hexadecimal digits. -/
def hexDigits? (f : Flags) : Nat → List Char → Option (List Char × List Char)
  | 0, rest => some ([], rest)
  | n + 1, c :: rest =>
    if Number.isHexDigit c then (hexDigits? f n (f.skip rest)).map fun r => (c :: r.1, r.2)
    else none
  | _ + 1, [] => none

/-- Reads hexadecimal digits up to a closing brace, after the given ones in reverse. -/
def hexBraced? (f : Flags) : Nat → List Char → List Char → Option (List Char × List Char)
  | 0, _, _ => none
  | fuel + 1, acc, text =>
    match f.skip text with
    | [] => none
    | c :: rest =>
      if c == '\x7d' then some (acc.reverse, f.skip rest)
      else if Number.isHexDigit c then hexBraced? f fuel (c :: acc) rest
      else none

/-- Reads the code point of a character, after the letter that gives the number of its digits. -/
def codePoint? (f : Flags) (width : Nat) (text : List Char) : Option (Atom × List Char) := do
  let text := f.skip text
  let braced := text.head? = some '\x7b'
  let (digits, rest) ←
    if braced then hexBraced? f text.length [] (text.drop 1) else hexDigits? f width text
  let n := Number.ofDigits 16 digits
  if digits.isEmpty ∨ ¬ n.isValidChar then none
  else return (.char (Char.ofNat n) (!braced && width == 2), rest)

/-! ## Sets -/

/-- The sets that letters stand for. -/
def perl? (unicode : Bool) (c : Char) : Option CharSet :=
  if c = 'd' then some (if unicode then Unicode.digit else .interval '0' '9')
  else if c = 's' then
    some (if unicode then Unicode.space else .ranges [(0x09, 0x0D), (0x20, 0x20)])
  else if c = 'w' then some (wordChars unicode)
  else none

/-- Reads characters up to a closing brace, after the given ones in reverse. -/
def name? (f : Flags) : Nat → List Char → List Char → Option (List Char × List Char)
  | 0, _, _ => none
  | fuel + 1, acc, text =>
    match f.skip text with
    | [] => none
    | c :: rest => if c == '\x7d' then some (acc.reverse, rest) else name? f fuel (c :: acc) rest

/-- The parts of a text before and after the first place where some characters stand. -/
def splitAt? (sep : List Char) : List Char → List Char → Option (List Char × List Char)
  | _, [] => none
  | acc, c :: rest =>
    if sep.isPrefixOf (c :: rest) then some (acc.reverse, (c :: rest).drop sep.length)
    else splitAt? sep (c :: acc) rest

/-- The set that a property stands for: a single name, or a name and a value with a sign between
them. -/
def property? (name : List Char) : Option CharSet :=
  match splitAt? ['!', '='] [] name, splitAt? [':'] [] name, splitAt? ['='] [] name with
  | some (p, v), _, _ | none, some (p, v), _ | none, none, some (p, v) =>
    Unicode.valued? (String.ofList p) (String.ofList v)
  | none, none, none => Unicode.named? (String.ofList name)

/-- Reads a property, in braces or of one letter, and gives its set. -/
def propertySet? (f : Flags) (text : List Char) : Option (CharSet × List Char) :=
  match f.skip text with
  | [] => none
  | c :: rest =>
    if c == '\x7b' then do
      let (name, rest) ← name? f (rest.length + 1) [] rest
      return (← property? name, rest)
    else if c == '\\' then none
    else (property? [c]).map fun s => (s, f.skip rest)

/-! ## Ends of words -/

/-- Whether a character may stand in the name of a condition on words. -/
def isEdgeName (c : Char) : Bool := c.isAlpha || c == '-'

/-- Reads the name of a condition on words, after the given characters in reverse. -/
def edgeName (f : Flags) : Nat → List Char → List Char → List Char × List Char
  | 0, acc, text => (acc.reverse, text)
  | fuel + 1, acc, text =>
    match text with
    | c :: rest =>
      if isEdgeName c then edgeName f fuel (c :: acc) (f.skip rest) else (acc.reverse, text)
    | [] => (acc.reverse, [])

/-- The condition on words with a name. -/
def edge? (unicode : Bool) (name : String) : Option Look :=
  if name = "start" then some (.wordStart unicode)
  else if name = "end" then some (.wordEnd unicode)
  else if name = "start-half" then some (.noWordBefore unicode)
  else if name = "end-half" then some (.noWordAfter unicode)
  else none

/-- Reads a condition on words, after its letter. A brace after the letter begins its name, unless
it can only begin a count. -/
def wordEdge? (f : Flags) (text : List Char) : Option (Atom × List Char) :=
  let plain : Atom × List Char := (.look (.wordEdge f.unicode), text)
  match text with
  | '\x7b' :: rest =>
    match f.skip rest with
    | [] => none
    | c :: rest =>
      if isEdgeName c then
        match edgeName f text.length [] (c :: rest) with
        | (name, '\x7d' :: rest) =>
          (edge? f.unicode (String.ofList name)).map fun l => (.look l, rest)
        | _ => none
      else some plain
  | _ => some plain

/-! ## Escapes -/

/-- Reads an escape, after its backslash. -/
def read? (f : Flags) : List Char → Option (Atom × List Char)
  | [] => none
  | c :: rest =>
    if c = 'x' then codePoint? f 2 rest
    else if c = 'u' then codePoint? f 4 rest
    else if c = 'U' then codePoint? f 8 rest
    else if c = 'p' ∨ c = 'P' then
      if f.unicode then
        (propertySet? f rest).map fun r =>
          let s := if f.caseless then Unicode.closure r.1 else r.1
          (.set (if c = 'P' then .compl s else s), r.2)
      else none
    else if isLiteral c then some (.char c false, rest)
    else match controls.lookup c, perl? f.unicode c, perl? f.unicode c.toLower with
      | some d, _, _ => some (.char d false, rest)
      | _, some s, _ => some (.set s, rest)
      | _, _, some s => if f.unicode then some (.set (.compl s), rest) else none
      | none, none, none =>
        if c = 'A' then some (.look .textStart, rest)
        else if c = 'z' then some (.look .textEnd, rest)
        else if c = 'b' then wordEdge? f rest
        else if c = 'B' then some (.look (.noWordEdge f.unicode), rest)
        else if c = '<' then some (.look (.wordStart f.unicode), rest)
        else if c = '>' then some (.look (.wordEnd f.unicode), rest)
        else none

end Escape

end BlackBox.Pattern
