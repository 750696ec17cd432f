import BlackBox.Command
import BlackBox.Files.Listing

/-!
# The program

Runs a command line on a file system that is read as a document from the standard input. Every
pattern is looked for that is not nested too deep, however large it is.
-/

namespace BlackBox

/-- All lines of a stream, after the given text. -/
partial def readLines (input : IO.FS.Stream) (text : String) : IO String := do
  let line ← input.getLine
  if line.isEmpty then return text else readLines input (text ++ line)

/-- The wording of the program, which looks for patterns of any size. -/
def libraries : Libraries where
  documentError _ := "the text is no document"
  patternError pattern := "'" ++ pattern ++ "' is no pattern"
  fits _ := true

/-- The file system that the standard input describes. It is not read if no run is asked for. -/
def readDisk (words : List String) : IO (Option Disk) := do
  match CommandLine.parse words with
  | .ok _ => return Disk.ofText? (← readLines (← IO.getStdin) "")
  | .error _ => return some { root := .empty, current := "/" }

end BlackBox

/-- Runs a command line and ends with its exit code. -/
def main (words : List String) : IO UInt32 := do
  match ← BlackBox.readDisk words with
  | none =>
    IO.eprintln "Error: The standard input describes no file system."
    return 1
  | some d =>
    let r := BlackBox.Command.run BlackBox.libraries d words
    for record in r.log do
      IO.eprintln record.line
    IO.print r.stdout
    IO.eprint r.stderr
    return r.exitCode.toUInt32
