import BlackBox.Text.Lines

/-!
# The Test Anything Protocol

The lines of a report that other programs read: a version, a line for each test with its number, and
a plan. A failed test is followed by what is wrong with it, as a block of lines that are indented
and so cannot be taken for lines of the protocol.
-/

namespace BlackBox.Report.Tap

/-- The first line of a report. -/
def version : String := "TAP version 14\n"

/-- The line that says which numbers tests have. -/
def plan (first last : Nat) : String := s!"{first}..{last}\n"

/-- What is wrong with a test, as a block between two lines of its own. The text is the value of a
key in a document of which the indentation is given, so that its lines may begin with spaces. -/
def diagnosticsBlock (text : String) : String :=
  let ending := if text.toList.getLast? = some '\n' then "" else "\n"
  Text.indentLines 2 ("---\nmessage: |2\n" ++ Text.indentLines 2 text ++ ending ++ "...\n")

/-- The line of a test that has passed. -/
def ok (number : Nat) (description : String) : String :=
  s!"ok {number} - {description}\n"

/-- The line of a test that has failed, with what is wrong if anything is said. -/
def notOk (number : Nat) (description diagnostics : String) : String :=
  s!"not ok {number} - {description}\n" ++
    (if diagnostics.isEmpty then "" else diagnosticsBlock diagnostics)

end BlackBox.Report.Tap
