import Mathlib.Data.String.Basic
import BlackBox.Outcome

/-!
# Messages

A verdict has a message exactly if the test has failed: no outcome but a success has an empty
message, and a verdict with a message of its own is only made for a failure.
-/

namespace BlackBox

/-- A verdict has a message exactly if the test has failed. -/
def Verdict.Explained (v : Verdict) : Prop := v.passed = true ↔ v.message = ""

namespace Outcome

/-- The line at the end of a message is not empty. -/
theorem ruler_ne_empty : ruler ≠ "" := by decide

/-- Only a success has nothing to report: every other message ends in the ruler. -/
theorem message_eq_empty_iff {o : Outcome} : o.message = "" ↔ o = .passed := by
  constructor
  · intro h
    cases o with
    | passed => rfl
    | wrongExitCode expected got output =>
      exact absurd (String.append_eq_empty_iff.mp h).2 ruler_ne_empty
    | outputMismatch expected output =>
      have hend := (String.append_eq_empty_iff.mp h).2
      exact absurd (String.append_eq_empty_iff.mp hend).2 ruler_ne_empty
    | patternMismatch pattern output =>
      have hend := (String.append_eq_empty_iff.mp h).2
      exact absurd (String.append_eq_empty_iff.mp hend).2 ruler_ne_empty
  · rintro rfl
    rfl

end Outcome

namespace Verdict

/-- The verdict on a test that has passed has no message. -/
theorem explained_pass (testId : String) : (pass testId).Explained := by
  simp [Explained, pass]

/-- The verdict on a test that has failed is explained by a message that is not empty. -/
theorem explained_fail {testId message : String} (h : message ≠ "") :
    (fail testId message).Explained := by
  simp [Explained, fail, h]

/-- The verdict that follows from an outcome is that the test has passed only for a success. -/
theorem ofOutcome_passed_iff {testId : String} {o : Outcome} :
    (ofOutcome testId o).passed = true ↔ o = .passed := by
  cases o <;> simp [ofOutcome, Outcome.isSuccess, pass, fail]

/-- The verdict that follows from an outcome has the name that is given. -/
theorem testId_ofOutcome (testId : String) (o : Outcome) :
    (ofOutcome testId o).testId = testId := by
  cases o <;> rfl

/-- The verdict that follows from an outcome that is no success has the message of the outcome. -/
theorem ofOutcome_of_ne_passed {testId : String} {o : Outcome} (h : o ≠ .passed) :
    ofOutcome testId o = fail testId o.message := by
  cases o with
  | passed => contradiction
  | _ => rfl

/-- The verdict that follows from an outcome is explained by the message of the outcome. -/
theorem explained_ofOutcome (testId : String) (o : Outcome) : (ofOutcome testId o).Explained := by
  by_cases h : o = .passed
  · subst h
    exact explained_pass testId
  · rw [ofOutcome_of_ne_passed h]
    exact explained_fail (mt Outcome.message_eq_empty_iff.mp h)

end Verdict

end BlackBox
