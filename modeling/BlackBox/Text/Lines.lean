/-!
# Lines

Three operations on the lines of a text: splitting it into lines, indenting every line, and
turning carriage-return line ends into plain ones. All of them work on the list of characters of a
text. They are written as folds from the right, so that a text of any length is processed without
deep recursion; the equations at the end of each section say what a fold does to one character.
-/

namespace BlackBox.Text

/-! ## Pieces and lines -/

/-- Adds a character in front of a split text: a newline is a piece of its own, and any other
character belongs to the piece that follows it. -/
def attach (c : Char) (pieces : List (List Char)) : List (List Char) :=
  if c = '\n' then [c] :: pieces
  else match pieces with
    | [] => [[c]]
    | p :: ps => (c :: p) :: ps

/-- The text cut after each of its newlines. No piece is empty, and only the last one may lack its
newline. -/
def pieces (s : List Char) : List (List Char) :=
  s.foldr attach []

/-- There are no pieces in the empty text. -/
@[simp] theorem pieces_nil : pieces [] = [] := rfl

/-- The pieces are cut from the end of the text, one character at a time. -/
@[simp] theorem pieces_cons (c : Char) (s : List Char) :
    pieces (c :: s) = attach c (pieces s) := rfl

/-- A text without its last character if that is `c`. -/
def dropEnd (c : Char) (s : List Char) : List Char :=
  if s.getLast? = some c then s.dropLast else s

/-- The line that a piece holds: the piece without its newline and without a carriage return
directly before that newline. A piece with no newline is a line as it stands. -/
def lineOf (piece : List Char) : List Char :=
  if piece.getLast? = some '\n' then dropEnd '\r' piece.dropLast else piece

/-- The lines of a text. A final newline opens no further line. -/
def lines (s : List Char) : List (List Char) :=
  (pieces s).map lineOf

/-! ## Indentation -/

/-- Puts `level` spaces before every line, blank lines included. Lines are joined by newlines, and
the result ends in a newline when the text does. -/
def indent (level : Nat) (s : List Char) : List Char :=
  List.intercalate ['\n'] ((lines s).map (List.replicate level ' ' ++ ·)) ++
    (if s.getLast? = some '\n' then ['\n'] else [])

/-- Indents every line of a text by `level` spaces. -/
def indentLines (level : Nat) (text : String) : String :=
  String.ofList (indent level text.toList)

/-! ## Line ends -/

/-- Adds a character in front of a normalised text. The flag says whether the text before
normalisation began with a newline; a carriage return is dropped exactly then. -/
def attachEnd (c : Char) (tail : List Char × Bool) : List Char × Bool :=
  (if c = '\r' ∧ tail.2 then tail.1 else c :: tail.1, c = '\n')

/-- The text without the carriage returns that stand directly before a newline. -/
def normalize (s : List Char) : List Char :=
  (s.foldr attachEnd ([], false)).1

/-- Turns each carriage return and newline into a newline; all other carriage returns stay. -/
def normalizeNewlines (text : String) : String :=
  String.ofList (normalize text.toList)

/-- What is kept beside a normalised text is whether it begins with a newline. -/
theorem foldr_attachEnd_snd (s : List Char) :
    (s.foldr attachEnd ([], false)).2 = decide (s.head? = some '\n') := by
  cases s <;> simp [attachEnd]

/-- There is nothing to normalise in the empty text. -/
@[simp] theorem normalize_nil : normalize [] = [] := rfl

/-- Normalisation drops a carriage return before a newline and keeps any other character. -/
theorem normalize_cons (c : Char) (s : List Char) :
    normalize (c :: s) =
      if c = '\r' ∧ s.head? = some '\n' then normalize s else c :: normalize s := by
  simp only [normalize, List.foldr_cons, attachEnd, foldr_attachEnd_snd, decide_eq_true_eq]

/-! ## Substrings -/

/-- Whether `word` occurs in the text as a run of consecutive characters. -/
def occursIn (word : List Char) : List Char → Bool
  | [] => word.isEmpty
  | c :: s => word.isPrefixOf (c :: s) || occursIn word s

/-- Whether `text` contains `part`. -/
def contains (text part : String) : Bool :=
  occursIn part.toList text.toList

end BlackBox.Text
