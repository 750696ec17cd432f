import BlackBox.Text.Blank

/-!
# Flags

Flags change how the text of a pattern is read, from where they are set to the end of the group.
-/

namespace BlackBox.Pattern

/-- The flags in force at some place of a pattern. -/
structure Flags where
  /-- Letters match in either case. -/
  caseless : Bool := false
  /-- Conditions on the ends of lines hold inside the text. -/
  multiLine : Bool := true
  /-- A point matches line ends too. -/
  dotAll : Bool := true
  /-- Carriage returns end lines. -/
  carriage : Bool := false
  /-- Classes are those of the standard, and not of ASCII alone. -/
  unicode : Bool := true
  /-- White space and comments in the pattern count for nothing. -/
  spaced : Bool := false
  deriving Repr, DecidableEq

namespace Flags

/-- Sets the flag of a letter, if the letter is one. Of two letters that only choose between matches
nothing is kept. -/
def set? (f : Flags) (b : Bool) (c : Char) : Option Flags :=
  if c = 'i' then some { f with caseless := b }
  else if c = 'm' then some { f with multiLine := b }
  else if c = 's' then some { f with dotAll := b }
  else if c = 'R' then some { f with carriage := b }
  else if c = 'u' then some { f with unicode := b }
  else if c = 'x' then some { f with spaced := b }
  else if c = 'U' then some f
  else none

/-- Reads letters that set flags up to a colon or a closing parenthesis, and gives the flags, that
character and what follows it. Letters after a hyphen unset flags. No letter may occur twice, there
may be one hyphen, and it must not come last. `seen` are the letters so far, the last one first. -/
def read? (f : Flags) (seen : List Char) : List Char → Option (Flags × Char × List Char)
  | [] => none
  | c :: rest =>
    if c = ':' ∨ c = ')' then
      if seen.head? = some '-' then none else some (f, c, rest)
    else if seen.contains c then none
    else if c = '-' then read? f ('-' :: seen) rest
    else match f.set? (!seen.contains '-') c with
      | some f => read? f (c :: seen) rest
      | none => none

/-- A text without the white space and the comments at its beginning. -/
def dropSpace : Bool → List Char → List Char
  | _, [] => []
  | true, c :: rest => dropSpace (c != '\n') rest
  | false, c :: rest =>
    if Text.isBlank c then dropSpace false rest
    else if c == '#' then dropSpace true rest
    else c :: rest

/-- What is left of a pattern where white space and comments may count for nothing. -/
def skip (f : Flags) (text : List Char) : List Char :=
  if f.spaced then dropSpace false text else text

end Flags

end BlackBox.Pattern
