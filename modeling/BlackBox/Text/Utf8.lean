/-!
# UTF-8 with damage

Reading bytes as text where they may not be UTF-8 and something has to be shown all the same:
each longest stretch of bytes that begins a character but does not complete it, and each byte that
begins none, is shown as one replacement character. Bytes that must be UTF-8 are read by
`String.fromUTF8?` instead, which refuses them.
-/

namespace BlackBox.Text

/-- The character shown in place of bytes that encode none. -/
def replacement : Char := '\ufffd'

/-- For a byte that begins a character of several bytes: how many bytes follow it, and the least
and greatest value of the first of those. -/
def lead (b : UInt8) : Option (Nat × UInt8 × UInt8) :=
  if 0xC2 ≤ b && b ≤ 0xDF then some (1, 0x80, 0xBF)
  else if b == 0xE0 then some (2, 0xA0, 0xBF)
  else if b == 0xED then some (2, 0x80, 0x9F)
  else if 0xE1 ≤ b && b ≤ 0xEF then some (2, 0x80, 0xBF)
  else if b == 0xF0 then some (3, 0x90, 0xBF)
  else if 0xF1 ≤ b && b ≤ 0xF3 then some (3, 0x80, 0xBF)
  else if b == 0xF4 then some (3, 0x80, 0x8F)
  else none

/-- Reads bytes as text. `pending` holds the bits of an unfinished character, with the number of
bytes that it still lacks and the bounds of the next one. -/
def decodeWith : Option (Nat × Nat × UInt8 × UInt8) → List UInt8 → List Char → List Char
  | none, [], out => out.reverse
  | some _, [], out => (replacement :: out).reverse
  | some (bits, left, low, high), b :: rest, out =>
    if low ≤ b && b ≤ high then
      let bits := bits * 64 + (b.toNat - 0x80)
      if left ≤ 1 then decodeWith none rest (Char.ofNat bits :: out)
      else decodeWith (some (bits, left - 1, 0x80, 0xBF)) rest out
    else start b rest (replacement :: out)
  | none, b :: rest, out => start b rest out
where
  /-- Reads a byte that stands at the beginning of a character. -/
  start (b : UInt8) (rest : List UInt8) (out : List Char) : List Char :=
    if b < 0x80 then decodeWith none rest (Char.ofNat b.toNat :: out)
    else match lead b with
      | none => decodeWith none rest (replacement :: out)
      | some (left, low, high) =>
        let payload := b.toNat % Nat.pow 2 (6 - left)
        decodeWith (some (payload, left, low, high)) rest out

/-- The text that bytes show, with a replacement character where they encode none. -/
def decodeLossy (bytes : ByteArray) : String :=
  String.ofList (decodeWith none bytes.toList [])

end BlackBox.Text
