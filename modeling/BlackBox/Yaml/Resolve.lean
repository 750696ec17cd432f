import BlackBox.Number.Digits
import BlackBox.Yaml.Token
import BlackBox.Yaml.Value

/-!
# The meaning of scalars

What a scalar means depends on its text, its tag and on whether it is written plainly. A plain
scalar without a tag is null, a truth value or a number if it is written like one, and text
otherwise. Tags of the standard ask for one kind of value, and all other tags but local ones make a
text.
-/

namespace BlackBox.Yaml.Scalar

/-! ## Whole numbers -/

/-- Reads digits of a base; there must be at least one. -/
def digits? (base : Nat) (cs : List Char) : Option Nat :=
  let isDigit (c : Char) : Bool := Number.isHexDigit c && Number.digitValue c < base
  if !cs.isEmpty && cs.all isDigit then some (Number.ofDigits base cs) else none

/-- Whether digits, with a sign perhaps, begin with a zero that they do not need. Such digits are
no number. -/
def hasIdleZero (cs : List Char) : Bool :=
  let cs := match cs with
    | '+' :: rest => rest
    | '-' :: rest => rest
    | _ => cs
  1 < cs.length && cs.head? == some '0' && cs.all Char.isDigit

/-- Reads a whole number without a sign: decimal digits, or digits of the base that a letter after a
zero gives. -/
def magnitude? : List Char → Option Nat
  | '0' :: 'x' :: rest => digits? 16 rest
  | '0' :: 'o' :: rest => digits? 8 rest
  | '0' :: 'b' :: rest => digits? 2 rest
  | cs => if hasIdleZero cs then none else digits? 10 cs

/-- Reads a whole number with an optional sign. -/
def whole? : List Char → Option Int
  | '+' :: rest => (magnitude? rest).map Int.ofNat
  | '-' :: rest => (magnitude? rest).map fun n => -(n : Int)
  | cs => (magnitude? cs).map Int.ofNat

/-- Whether a whole number is a value: it fits 64 bits, with a sign if it is negative. -/
def fits (n : Int) : Bool := -9223372036854775808 ≤ n && n < 18446744073709551616

/-- Whether a whole number fits 128 bits, with a sign if it is negative. Numbers that do but are no
values are refused, and greater ones are read as floating-point numbers. -/
def fitsTwice (n : Int) : Bool :=
  -170141183460469231731687303715884105728 ≤ n && n < 340282366920938463463374607431768211456

/-! ## Floating-point numbers -/

/-- Reads an exponent, which may be left out altogether. -/
def exponent? : List Char → Option Int
  | [] => some 0
  | e :: rest =>
    if e = 'e' ∨ e = 'E' then
      match rest with
      | '+' :: ds => (digits? 10 ds).map Int.ofNat
      | '-' :: ds => (digits? 10 ds).map fun n => -(n : Int)
      | ds => (digits? 10 ds).map Int.ofNat
    else none

/-- Reads a decimal number without a sign. -/
def decimal? (negative : Bool) (cs : List Char) : Option Number.Binary64 :=
  let whole := cs.takeWhile Char.isDigit
  let rest := cs.dropWhile Char.isDigit
  let (part, rest) := match rest with
    | '.' :: rest => (rest.takeWhile Char.isDigit, rest.dropWhile Char.isDigit)
    | _ => ([], rest)
  if whole.isEmpty && part.isEmpty then none
  else (exponent? rest).map fun e =>
    .ofDecimal negative (Number.ofDigits 10 (whole ++ part)) (e - part.length)

/-- Reads a floating-point number. One that is too great for the format is none. -/
def float? (cs : List Char) : Option Number.Binary64 :=
  let (negative, body) := match cs with
    | '+' :: rest => (false, rest)
    | '-' :: rest => (true, rest)
    | _ => (false, cs)
  if [".inf", ".Inf", ".INF"].contains (String.ofList body) then some (.infinity negative)
  else if [".nan", ".NaN", ".NAN"].contains (String.ofList cs) then some .nan
  else match decimal? negative body with
    | some (.finite s m e) => some (.finite s m e)
    | _ => none

/-! ## Scalars -/

/-- The words for null. -/
def nullWords : List String := ["~", "null", "Null", "NULL"]

/-- Reads a truth value. -/
def bool? (text : String) : Option Bool :=
  if ["true", "True", "TRUE"].contains text then some true
  else if ["false", "False", "FALSE"].contains text then some false
  else none

/-- The value of a plain scalar without a tag. -/
def plain? (text : String) : Option Value :=
  let cs := text.toList
  if cs.isEmpty || nullWords.contains text then some .null
  else match bool? text with
    | some b => some (.bool b)
    | none =>
      match (whole? cs).filter fitsTwice with
      | some n => if fits n then some (.int n) else none
      | none =>
        match (if hasIdleZero cs then none else float? cs) with
        | some x => some (.float x)
        | none => some (.string text)

/-- A tag of the standard. -/
def coreTag (name : String) : TagBytes := ("tag:yaml.org,2002:" ++ name).toUTF8.toList

/-- The name of a local tag: what follows its exclamation marks, or one if nothing does. Tags that
are not local have none, nor have bytes that are no text. -/
def localName? : TagBytes → Option String
  | 0x21 :: rest =>
    let name := if rest.isEmpty then [0x21] else rest
    (String.fromUTF8? ⟨name.toArray⟩).map fun text =>
      match text.toList with
      | '!' :: c :: cs => String.ofList (c :: cs)
      | _ => text
  | _ => none

/-- The value of a scalar. A local tag is not part of it. -/
def value? (tag : Option TagBytes) (text : String) (plain : Bool) : Option Value :=
  match tag with
  | none => if plain then plain? text else some (.string text)
  | some t =>
    if t = coreTag "bool" then (bool? text).map .bool
    else if t = coreTag "int" then ((whole? text.toList).filter fits).map .int
    else if t = coreTag "float" then (float? text.toList).map .float
    else if t = coreTag "null" then (if nullWords.contains text then some .null else none)
    else if plain && t.head? == some 0x21 then plain? text
    else some (.string text)

end BlackBox.Yaml.Scalar
