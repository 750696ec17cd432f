import BlackBox.Unicode.CharSet
import BlackBox.Unicode.Property

/-!
# Regular expressions

The expressions that patterns stand for, and what it means that one matches a part of a text.
Positions are counted in characters: a text of `n` characters has the positions `0` to `n`, and
`Matches text r i j` says that `r` matches the characters from position `i` to position `j`. Looks
match no characters, and hold or fail by the characters on either side of a position.
-/

namespace BlackBox.Pattern

open Unicode (CharSet)

/-- The characters of words, by the standard or in ASCII alone. -/
def wordChars (unicode : Bool) : CharSet :=
  if unicode then Unicode.wordChar
  else .ranges [(0x30, 0x39), (0x41, 0x5A), (0x5F, 0x5F), (0x61, 0x7A)]

/-- A condition on a position. -/
inductive Look where
  /-- The beginning of the text. -/
  | textStart
  /-- The end of the text. -/
  | textEnd
  /-- The beginning of a line. -/
  | lineStart
  /-- The end of a line. -/
  | lineEnd
  /-- The beginning of a line, where a carriage return may end a line too. -/
  | lineStartCr
  /-- The end of a line, where a carriage return may end a line too. -/
  | lineEndCr
  /-- The beginning or the end of a word. -/
  | wordEdge (unicode : Bool)
  /-- Neither the beginning nor the end of a word. -/
  | noWordEdge (unicode : Bool)
  /-- The beginning of a word. -/
  | wordStart (unicode : Bool)
  /-- The end of a word. -/
  | wordEnd (unicode : Bool)
  /-- No word goes up to the position. -/
  | noWordBefore (unicode : Bool)
  /-- No word goes on from the position. -/
  | noWordAfter (unicode : Bool)
  deriving Repr, DecidableEq

/-- Whether a condition holds between two characters, either of which may be missing at an end of
the text. -/
def Look.holds (before after : Option Char) : Look → Bool
  | textStart => before.isNone
  | textEnd => after.isNone
  | lineStart => before.isNone || before == some '\n'
  | lineEnd => after.isNone || after == some '\n'
  | lineStartCr =>
    before.isNone || before == some '\n' || (before == some '\r' && after != some '\n')
  | lineEndCr =>
    after.isNone || after == some '\r' || (after == some '\n' && before != some '\r')
  | wordEdge u => word u before != word u after
  | noWordEdge u => word u before == word u after
  | wordStart u => !word u before && word u after
  | wordEnd u => word u before && !word u after
  | noWordBefore u => !word u before
  | noWordAfter u => !word u after
where
  /-- Whether there is a character and it is one of words. -/
  word (u : Bool) (c : Option Char) : Bool := c.any (wordChars u).contains

/-- A regular expression. -/
inductive Regex where
  /-- Matches no characters. -/
  | empty
  /-- Matches one character of a set. -/
  | set (s : CharSet)
  /-- Matches no characters where a condition holds. -/
  | look (l : Look)
  /-- Matches one expression and then another. -/
  | cat (a b : Regex)
  /-- Matches either of two expressions. -/
  | alt (a b : Regex)
  /-- Matches an expression a given number of times. -/
  | times (n : Nat) (a : Regex)
  /-- Matches an expression any number of times. -/
  | star (a : Regex)
  deriving Repr, DecidableEq, Inhabited

namespace Regex

/-- The character before a position. -/
def charBefore (text : Array Char) (i : Nat) : Option Char :=
  if i = 0 then none else text[i - 1]?

/-- Whether a condition holds at a position of a text. -/
def holdsAt (text : Array Char) (l : Look) (i : Nat) : Bool :=
  l.holds (charBefore text i) text[i]?

/-- An expression matches the characters of a text from one position to another. -/
inductive Matches (text : Array Char) : Regex → Nat → Nat → Prop where
  | empty (i : Nat) : Matches text empty i i
  | set {s : CharSet} {i : Nat} {c : Char} : text[i]? = some c → s.contains c = true →
      Matches text (set s) i (i + 1)
  | look {l : Look} {i : Nat} : holdsAt text l i = true → Matches text (look l) i i
  | cat {a b : Regex} {i j k : Nat} : Matches text a i j → Matches text b j k →
      Matches text (cat a b) i k
  | altLeft {a b : Regex} {i j : Nat} : Matches text a i j → Matches text (alt a b) i j
  | altRight {a b : Regex} {i j : Nat} : Matches text b i j → Matches text (alt a b) i j
  | zero {a : Regex} (i : Nat) : Matches text (times 0 a) i i
  | succ {n : Nat} {a : Regex} {i j k : Nat} : Matches text a i j → Matches text (times n a) j k →
      Matches text (times (n + 1) a) i k
  | done {a : Regex} (i : Nat) : Matches text (star a) i i
  | more {a : Regex} {i j k : Nat} : Matches text a i j → Matches text (star a) j k →
      Matches text (star a) i k

end Regex

end BlackBox.Pattern
