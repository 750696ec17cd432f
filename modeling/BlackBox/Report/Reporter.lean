import BlackBox.Report.Tap
import BlackBox.Summary

/-!
# Reports

What is printed about a run: something at its start, something for each verdict, and something at
its end. There are two formats, one for people and one for programs. A quiet report for people has
nothing but its end.
-/

namespace BlackBox

namespace Report

/-- The format of a report. -/
inductive Format where
  /-- For people. -/
  | summary
  /-- For programs, by the Test Anything Protocol. -/
  | tap
  deriving Repr, DecidableEq, Inhabited

/-- The format with a name. -/
def Format.ofName? (name : String) : Option Format :=
  if name = "summary" then some .summary else if name = "tap" then some .tap else none

/-- What is said of a name that no format has. -/
def Format.invalidMessage : String := "Invalid output format"

/-- How a report is printed. -/
structure Style where
  /-- The format. -/
  format : Format := .summary
  /-- Whether a report for people has nothing but its end. -/
  quiet : Bool := false
  /-- Whether verdicts are printed in colour. -/
  color : Bool := false
  deriving Repr, DecidableEq

/-- A text in one of the colours of a terminal. -/
def colored (color : Bool) (code : Nat) (text : String) : String :=
  if color then s!"\x1b[{code}m{text}\x1b[0m" else text

/-- The code of the colour green. -/
def green : Nat := 32

/-- The code of the colour red. -/
def red : Nat := 31

/-- The line of a verdict in a report for people. -/
def verdictLine (color : Bool) (v : Verdict) : String :=
  (if v.passed then colored color green "OK" else colored color red ":(") ++ " " ++ v.testId ++ "\n"

/-- The end of a report for people: that all is well, or what has failed. -/
def summaryText (s : Summary) : String :=
  if s.isSuccess then s!":D   All {s.total} tests OK.\n"
  else
    "\n********************* Failed tests *********************\n" ++
      String.join (s.failures.map fun f => s!"   {f.1}\n{f.2}\n") ++
      s!">:(   {s.failed} of {s.total} tests failed.\n"

/-- What is printed when there are no test files. -/
def noTestFiles : String := " :-|   No testfiles found.\n"

/-- What is printed at the start of a run of some number of files. -/
def start (style : Style) (files : Nat) : String :=
  match style.format with
  | .summary => if style.quiet then "" else s!"Running {files} testfiles:\n"
  | .tap => Tap.version

/-- What is printed for a verdict, which is the one with the given number. -/
def verdict (style : Style) (number : Nat) (v : Verdict) : String :=
  match style.format with
  | .summary => if style.quiet then "" else verdictLine style.color v
  | .tap => if v.passed then Tap.ok number v.testId else Tap.notOk number v.testId v.message

/-- What is printed for verdicts, of which the first one has the given number. -/
def verdicts (style : Style) : Nat → List Verdict → List String
  | _, [] => []
  | n, v :: vs => verdict style n v :: verdicts style (n + 1) vs

/-- What is printed at the end of a run. -/
def finish (style : Style) (s : Summary) : String :=
  match style.format with
  | .summary => summaryText s
  | .tap => Tap.plan 1 s.total

/-- The report of a run. -/
def whole (style : Style) (files : Nat) (vs : List Verdict) (s : Summary) : String :=
  start style files ++ String.join (verdicts style 1 vs) ++ finish style s

end Report

end BlackBox
