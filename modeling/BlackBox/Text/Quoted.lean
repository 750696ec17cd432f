import BlackBox.Unicode.Property

/-!
# Quoted text

A text between double quotes, with the characters that a reader could not see or would misread
written as escapes: quotes and backslashes, line ends and tabs, the null character, characters that
are not printable, and those that merge with the character before them.
-/

namespace BlackBox.Text

/-- The lower-case hexadecimal digits of a number, without leading zeros. -/
def hexDigits (n : Nat) : List Char := Nat.toDigits 16 n

/-- One character of a quoted text. -/
def quoteChar (c : Char) : List Char :=
  if c = '\x00' then ['\\', '0']
  else if c = '\t' then ['\\', 't']
  else if c = '\r' then ['\\', 'r']
  else if c = '\n' then ['\\', 'n']
  else if c = '\\' ∨ c = '"' then ['\\', c]
  else if Unicode.graphemeExtend.contains c ∨ ¬ Unicode.printable.contains c then
    ['\\', 'u', '\x7b'] ++ hexDigits c.toNat ++ ['\x7d']
  else [c]

/-- A text in double quotes. -/
def quoted (text : String) : String :=
  String.ofList ('"' :: text.toList.flatMap quoteChar ++ ['"'])

end BlackBox.Text
