/-!
# Programs

A program is known by what it does: for its arguments and its standard input it writes to its two
output streams, in some order, and ends with an exit code or by a signal. `Script` describes simple
programs by steps, and `Script.program` is what they do.
-/

namespace BlackBox

/-- An output stream of a program. -/
inductive Stream where
  /-- The standard output. -/
  | out
  /-- The standard error. -/
  | err
  deriving Repr, DecidableEq

/-- How a program ends. -/
inductive Ending where
  /-- With an exit code. -/
  | exit (code : Nat)
  /-- By a signal. -/
  | signal (number : Nat)
  deriving Repr, DecidableEq

/-- The code by which an ending is known: the exit code, or the negated number of the signal. -/
def Ending.code : Ending → Int
  | exit code => code
  | signal number => -(number : Int)

/-- What a program does. -/
structure Execution where
  /-- What is written, in order. -/
  writes : List (Stream × ByteArray)
  /-- How the program ends. -/
  ending : Ending

/-- All that is written to a stream. -/
def Execution.output (e : Execution) (s : Stream) : ByteArray :=
  e.writes.foldl (fun acc w => if w.1 = s then acc ++ w.2 else acc) .empty

/-- What a program does for arguments and a standard input. -/
abbrev Program := List String → ByteArray → Execution

/-- A step of a simple program. -/
inductive Step where
  /-- Writes bytes. -/
  | write (s : Stream) (bytes : ByteArray)
  /-- Copies what is left of the standard input. -/
  | copy (s : Stream)
  /-- Writes the number of the arguments and each of them in brackets, a line for each. -/
  | arguments (s : Stream)
  /-- Ends the program. -/
  | finish (ending : Ending)

/-- A simple program, step by step. -/
abbrev Script := List Step

namespace Script

/-- The lines that show arguments. -/
def showArguments (args : List String) : String :=
  args.foldl (fun acc a => acc ++ "[" ++ a ++ "]\n") (toString args.length ++ "\n")

/-- What the steps do, after the given writes in reverse. -/
def run (args : List String) : Script → ByteArray → List (Stream × ByteArray) → Execution
  | [], _, acc => ⟨acc.reverse, .exit 0⟩
  | .write s bytes :: rest, input, acc => run args rest input ((s, bytes) :: acc)
  | .copy s :: rest, input, acc => run args rest .empty ((s, input) :: acc)
  | .arguments s :: rest, input, acc =>
    run args rest input ((s, (showArguments args).toUTF8) :: acc)
  | .finish ending :: _, _, acc => ⟨acc.reverse, ending⟩

/-- The program that takes the steps. -/
def program (s : Script) : Program := fun args input => run args s input []

end Script

end BlackBox
