/-!
# Outcomes

What comes of running a test case to its end, and the verdict on the test. A verdict has a message
exactly if the test has failed.
-/

namespace BlackBox

/-- The outcome of a test case whose program has run. -/
inductive Outcome where
  /-- All is as expected. -/
  | passed
  /-- The exit code is not the expected one. -/
  | wrongExitCode (expected got : Int) (output : String)
  /-- The output is not the expected text. -/
  | outputMismatch (expected output : String)
  /-- The expected pattern is not found in the output. -/
  | patternMismatch (pattern output : String)
  deriving Repr, DecidableEq

namespace Outcome

/-- The line that ends a message. -/
def ruler : String := "**********************************"

/-- Whether the test has passed. -/
def isSuccess : Outcome → Bool
  | passed => true
  | _ => false

/-- What is reported of an outcome; nothing of a success. -/
def message : Outcome → String
  | passed => ""
  | wrongExitCode expected got output =>
    s!"Wrong exit code: expected {expected}, got {got}.\n{output}\n{ruler}"
  | outputMismatch expected output =>
    s!"** Expected: *********************\n{expected}\n" ++
      s!"** Got: **************************\n{output}\n{ruler}"
  | patternMismatch pattern output =>
    s!"** Expected pattern: *************\n{pattern}\n" ++
      s!"** Got: **************************\n{output}\n{ruler}"

end Outcome

/-- The verdict on a test case, or on a test file that cannot be read. -/
structure Verdict where
  /-- Whether the test has passed. -/
  passed : Bool
  /-- The name by which the test is reported. -/
  testId : String
  /-- What is wrong, if anything is. -/
  message : String
  deriving Repr, DecidableEq

namespace Verdict

/-- The verdict on a test that has passed. -/
def pass (testId : String) : Verdict := ⟨true, testId, ""⟩

/-- The verdict on a test that has failed. -/
def fail (testId message : String) : Verdict := ⟨false, testId, message⟩

/-- The verdict that follows from an outcome. -/
def ofOutcome (testId : String) (o : Outcome) : Verdict :=
  if o.isSuccess then pass testId else fail testId o.message

end Verdict

end BlackBox
