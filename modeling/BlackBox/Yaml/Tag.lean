import BlackBox.Number.Digits
import BlackBox.Yaml.Cursor
import BlackBox.Yaml.Token

/-!
# Tags in the text

A tag is written in angle brackets, or as a handle and the rest. The rest may write bytes by their
hexadecimal codes. What follows a tag has to set it apart from the node.
-/

namespace BlackBox.Yaml.Tag

/-- The bytes that encode some characters. -/
def bytes (cs : List Char) : TagBytes :=
  (String.ofList cs).toUTF8.toList

/-- A character that a tag may hold after its handle. Commas and brackets are allowed where nothing
else can be meant by them. -/
def isTagChar (brackets : Bool) (c : Char) : Bool :=
  isName c || ";/?:@&=+$.%!~*'()".toList.contains c
    || (brackets && (c == ',' || c == '[' || c == ']'))

/-- The number of bytes of a character by its first byte. -/
def width? (b : Nat) : Option Nat :=
  if b < 0x80 then some 1
  else if b / 0x20 = 6 then some 2
  else if b / 0x10 = 14 then some 3
  else if b / 0x08 = 30 then some 4
  else none

/-- Reads `n` bytes that continue a character, each written as a percent sign and two hexadecimal
digits. -/
def continuation? : Nat → List Char → Option TagBytes
  | 0, _ => some []
  | n + 1, '%' :: a :: b :: rest =>
    let byte := Number.ofDigits 16 [a, b]
    if Number.isHexDigit a && Number.isHexDigit b && byte / 0x40 == 2 then
      (continuation? n rest).map (byte.toUInt8 :: ·)
    else none
  | _, _ => none

/-- Reads the character that a text writes by the codes of its bytes. -/
def escape? : List Char → Option TagBytes
  | '%' :: a :: b :: rest =>
    let byte := Number.ofDigits 16 [a, b]
    if Number.isHexDigit a && Number.isHexDigit b then do
      let width ← width? byte
      let more ← continuation? (width - 1) rest
      return byte.toUInt8 :: more
    else none
  | _ => none

/-- Reads the characters of a tag, after the given bytes in reverse. -/
def uri (brackets : Bool) : Nat → Cursor → TagBytes → Option (TagBytes × Cursor)
  | 0, _, _ => none
  | fuel + 1, p, acc =>
    match p.rest with
    | [] => some (acc.reverse, p)
    | c :: _ =>
      if c == '%' then
        match escape? p.rest with
        | some bs => uri brackets fuel (p.skip (3 * bs.length)) (bs.reverse ++ acc)
        | none => none
      else if isTagChar brackets c then uri brackets fuel (p.skip 1) (c.toNat.toUInt8 :: acc)
      else some (acc.reverse, p)

/-- The bytes before the first null byte. -/
def untilNull (bs : TagBytes) : TagBytes := bs.takeWhile (· != 0)

/-- Reads a handle: an exclamation mark, a name, and perhaps another exclamation mark. -/
def handle? (p : Cursor) : Option (List Char × Cursor) :=
  if p.rest.head? = some '!' then
    let q := (p.skip 1).skipWhile isName
    let q := if q.rest.head? = some '!' then q.skip 1 else q
    some (p.rest.take (q.index - p.index), q)
  else none

/-- Whether a handle ends in an exclamation mark other than its first. -/
def closed (handle : List Char) : Bool :=
  1 < handle.length && handle.getLast? == some '!'

/-- Reads the handle and the rest of a tag that is not in angle brackets. A handle that is not
closed is the beginning of the rest, and an exclamation mark alone is a tag by itself. -/
def shorthand? (limit : Nat) (p : Cursor) : Option (String × TagBytes × Cursor) := do
  let (handle, q) ← handle? p
  let (bs, r) ← uri false limit q []
  if closed handle then
    if r.index = q.index then none
    else return (String.ofList handle, untilNull bs, r)
  else
    let suffix := untilNull (bytes (handle.drop 1) ++ bs)
    return if suffix.isEmpty then ("", bytes ['!'], r) else ("!", suffix, r)

/-- Reads a tag in angle brackets. -/
def verbatim? (limit : Nat) (p : Cursor) : Option (TagBytes × Cursor) := do
  let (bs, q) ← uri true limit (p.skip 2) []
  if q.index = p.index + 2 ∨ q.rest.head? ≠ some '>' then none
  else return (untilNull bs, q.skip 1)

/-- Reads a tag that the position stands before. `flow` says whether it is inside brackets, where a
comma may follow it. -/
def read? (flow : Bool) (limit : Nat) (p : Cursor) : Option (Token × Cursor) := do
  let (handle, suffix, q) ←
    if (p.rest.drop 1).head? = some '<' then
      (verbatim? limit p).map fun r => ("", r.1, r.2)
    else shorthand? limit p
  if atGapOrEnd q.rest || (flow && q.rest.head? == some ',') then
    return (.tag handle suffix, q)
  else none

end BlackBox.Yaml.Tag
