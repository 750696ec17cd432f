import BlackBox.Outcome

/-!
# Summaries

Running totals over verdicts. A summary is built by recording verdicts one at a time, by collecting
a list of them and by merging two summaries; whichever way it is built, it counts the verdicts and
keeps the failures in order.
-/

namespace BlackBox

/-- Totals over some verdicts. -/
structure Summary where
  /-- The number of verdicts. -/
  total : Nat := 0
  /-- The number of tests that have passed. -/
  passed : Nat := 0
  /-- The names and the messages of the tests that have failed, in order. -/
  failures : List (String × String) := []
  deriving Repr, DecidableEq

namespace Summary

/-- Adds a verdict. -/
def record (s : Summary) (v : Verdict) : Summary :=
  if v.passed then { s with total := s.total + 1, passed := s.passed + 1 }
  else { s with total := s.total + 1, failures := s.failures ++ [(v.testId, v.message)] }

/-- Adds the verdicts of another summary. -/
def merge (s t : Summary) : Summary where
  total := s.total + t.total
  passed := s.passed + t.passed
  failures := s.failures ++ t.failures

/-- The summary of some verdicts. -/
def collect (vs : List Verdict) : Summary := vs.foldl record {}

/-- The number of tests that have failed. -/
def failed (s : Summary) : Nat := s.failures.length

/-- Whether no test has failed. -/
def isSuccess (s : Summary) : Bool := s.failures.isEmpty

end Summary

end BlackBox
