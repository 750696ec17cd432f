import BlackBox.Proofs.Report
import BlackBox.Proofs.Text.Lines

/-!
# What a line-oriented reader recovers from a report

A reader of the protocol takes a report line by line. A line that begins with `ok` or `not ok` is a
test point, and one that begins with `1..` is a plan. `Recovered` says that such a reader finds the
number and the outcome of all tests, and `recovered_iff_names_silent` when it does.

The lines of a report are those of its parts, since each part consists of whole lines
(`lines_verdicts_cons`). What is wrong with a test stands in an indented block, of which no line
begins like a line of the protocol, whatever the program has written. The name of a test stands in
the line of its test point as it is, so the lines of the name after the first one are lines of the
report.
-/

namespace BlackBox.Report

namespace Tap

/-! ## Lines of the protocol -/

/-- Whether a line says how a test has ended. -/
def isPoint (line : List Char) : Bool :=
  "ok ".toList.isPrefixOf line || "not ok ".toList.isPrefixOf line

/-- Whether a line says which numbers tests have. -/
def isPlan (line : List Char) : Bool := "1..".toList.isPrefixOf line

/-- How the line of a test with a number begins. -/
def pointStart (number : Nat) (passed : Bool) : String :=
  if passed then s!"ok {number} - " else s!"not ok {number} - "

/-- The line that says that there are some tests. -/
def planLine (tests : Nat) : String := s!"1..{tests}"

/-- The lines of a name after the first one. -/
def laterLines (name : String) : List (List Char) := (Text.lines (name.toList ++ ['\n'])).tail

/-- The numbers and the outcomes of tests can be read off the lines of a report. -/
structure Recovered (lines : List (List Char)) (vs : List Verdict) : Prop where
  /-- There is one test point for each test. -/
  count : (lines.filter isPoint).length = vs.length
  /-- The test points are numbered in the order of the tests, and say which of them have passed. -/
  point : ∀ k v line, vs[k]? = some v → (lines.filter isPoint)[k]? = some line →
    (pointStart (k + 1) v.passed).toList <+: line
  /-- There is one plan, with the number of the tests. -/
  plan : lines.filter isPlan = [(planLine vs.length).toList]

/-! ## Beginnings of lines -/

/-- A number is written with digits only. -/
theorem not_mem_toString (n : Nat) {c : Char} (hc : c.isDigit = false) :
    c ∉ (toString n).toList := by
  rw [Nat.toString_eq_ofList_toDigits, String.toList_ofList]
  intro h
  have hdigit := Nat.isDigit_of_mem_toDigits (by decide) (by decide) h
  rw [hc] at hdigit
  contradiction

/-- The beginning of a test point is the outcome, the number and a hyphen. -/
theorem toList_pointStart (n : Nat) (passed : Bool) : (pointStart n passed).toList =
    (if passed then "ok ".toList else "not ok ".toList) ++ (toString n).toList ++ " - ".toList := by
  have hstart : pointStart n passed =
      (if passed then "ok " else "not ok ") ++ toString n ++ " - " := by
    cases passed <;> rfl
  rw [hstart, String.toList_append, String.toList_append]
  cases passed <;> rfl

/-- The beginning of a test point does not break the line. -/
theorem newline_not_mem_pointStart (n : Nat) (passed : Bool) :
    '\n' ∉ (pointStart n passed).toList := by
  rw [toList_pointStart, List.mem_append, List.mem_append, not_or, not_or]
  refine ⟨⟨?_, not_mem_toString n rfl⟩, by decide⟩
  cases passed <;> decide

/-- The beginning of a test point ends in a space. -/
theorem getLast?_pointStart (n : Nat) (passed : Bool) :
    (pointStart n passed).toList.getLast? = some ' ' := by
  rw [toList_pointStart, List.getLast?_append]
  rfl

/-- A line that begins like a test point is one, and no plan. -/
theorem isPoint_of_pointStart {n : Nat} {passed : Bool} {line : List Char}
    (h : (pointStart n passed).toList <+: line) : isPoint line = true ∧ isPlan line = false := by
  obtain ⟨rest, rfl⟩ := h
  rw [toList_pointStart]
  cases passed <;> simp [isPoint, isPlan, List.isPrefixOf]

/-- The characters of a plan. -/
theorem toList_planLine (n : Nat) : (planLine n).toList = "1..".toList ++ (toString n).toList := by
  have hstart : planLine n = "1.." ++ toString n := rfl
  rw [hstart, String.toList_append]

/-- A plan is one, and no test point. -/
theorem isPlan_planLine (n : Nat) :
    isPoint (planLine n).toList = false ∧ isPlan (planLine n).toList = true := by
  rw [toList_planLine]
  simp [isPoint, isPlan, List.isPrefixOf]

/-- A plan has no line end in it. -/
theorem not_mem_planLine (n : Nat) : '\n' ∉ (planLine n).toList ∧ '\r' ∉ (planLine n).toList := by
  rw [toList_planLine, List.mem_append, List.mem_append, not_or, not_or]
  exact ⟨⟨by decide, not_mem_toString n rfl⟩, by decide, not_mem_toString n rfl⟩

/-- An indented line is neither a test point nor a plan. -/
theorem not_signal_of_spaces {line : List Char} (h : Text.spaces 2 <+: line) :
    isPoint line = false ∧ isPlan line = false := by
  obtain ⟨rest, rfl⟩ := h
  simp [Text.spaces, isPoint, isPlan, List.isPrefixOf, List.replicate]

end Tap

open Tap

/-! ## The lines of a verdict -/

variable {style : Style}

/-- The lines of a test point are its own, with the first line of the name in it, the other lines of
the name, and those of what follows. -/
theorem lines_point {start : List Char} (hs : '\n' ∉ start) (hlast : start.getLast? = some ' ')
    (name : String) (after : List Char) :
    ∃ first, start <+: first ∧
      Text.lines (start ++ name.toList ++ '\n' :: after) =
        first :: laterLines name ++ Text.lines after := by
  obtain ⟨line, rest, hline, hname⟩ :=
    Text.exists_line_of_mem (s := name.toList ++ ['\n']) (by simp)
  -- The other lines of the name are whole ones, so that what follows begins a line of its own.
  have hend : rest = [] ∨ rest.getLast? = some '\n' := by
    have hl : (line ++ '\n' :: rest).getLast? = some '\n' := by rw [← hname, List.getLast?_concat]
    rw [Text.getLast?_line] at hl
    split_ifs at hl with hnil
    · exact .inl hnil
    · exact .inr hl
  have hlater : laterLines name = Text.lines rest := by
    rw [laterLines, hname, Text.lines_line hline, List.tail_cons]
  refine ⟨start ++ Text.dropEnd '\r' line, List.prefix_append _ _, ?_⟩
  have hcr : start.getLast? ≠ some '\r' := by rw [hlast]; decide
  have htext : start ++ name.toList ++ '\n' :: after = start ++ (line ++ '\n' :: (rest ++ after)) := by
    have h := congrArg (start ++ · ++ after) hname
    simpa using h
  rw [htext, Text.lines_prefix hs hcr hline, Text.lines_append hend, hlater, List.cons_append]

/-- A test point of a failed test has lines of what is wrong after it, all of them indented. -/
theorem spaces_prefix_of_mem_diagnostics {text : String} {line : List Char}
    (h : line ∈ Text.lines (diagnosticsBlock text).toList) : Text.spaces 2 <+: line := by
  rw [diagnosticsBlock, Text.indentLines, String.toList_ofList] at h
  exact Text.spaces_prefix_of_mem_lines h

/-- What is wrong with a test is said in whole lines. -/
theorem getLast?_diagnosticsBlock (text : String) :
    (diagnosticsBlock text).toList.getLast? = some '\n' := by
  rw [diagnosticsBlock, Text.indentLines, String.toList_ofList]
  apply Text.getLast?_indent
  rw [String.toList_append, List.getLast?_append]
  rfl

/-- A verdict is printed as the beginning of a test point, the name of the test, and what is wrong
with it in a block, if anything is said. -/
theorem toList_verdict (hf : style.format = .tap) (n : Nat) (v : Verdict) :
    ∃ block, (verdict style n v).toList =
        (pointStart n v.passed).toList ++ v.testId.toList ++ '\n' :: block ∧
      (block = [] ∨ block.getLast? = some '\n') ∧
      ∀ line ∈ Text.lines block, Text.spaces 2 <+: line := by
  cases hp : v.passed with
  | true =>
    have htext : verdict style n v = pointStart n true ++ v.testId ++ "\n" := by
      simp only [verdict, hf, hp, if_true]
      rfl
    refine ⟨[], ?_, .inl rfl, by simp⟩
    rw [htext, String.toList_append, String.toList_append]
    rfl
  | false =>
    have htext : verdict style n v = pointStart n false ++ v.testId ++ "\n" ++
        (if v.message.isEmpty then "" else diagnosticsBlock v.message) := by
      simp only [verdict, hf, hp, Bool.false_eq_true, if_false]
      rfl
    refine ⟨(if v.message.isEmpty then "" else diagnosticsBlock v.message).toList, ?_, ?_, ?_⟩
    · rw [htext, String.toList_append, String.toList_append, String.toList_append]
      simp
    · split_ifs
      · exact .inl rfl
      · exact .inr (getLast?_diagnosticsBlock v.message)
    · intro line hline
      split_ifs at hline
      · simp at hline
      · exact spaces_prefix_of_mem_diagnostics hline

/-- A verdict is printed as whole lines. -/
theorem getLast?_verdict (hf : style.format = .tap) (n : Nat) (v : Verdict) :
    (verdict style n v).toList.getLast? = some '\n' := by
  obtain ⟨block, htext, hend, -⟩ := toList_verdict hf n v
  rw [htext, Text.getLast?_line]
  rcases hend with rfl | hend
  · rw [if_pos rfl]
  · have hne : block ≠ [] := by
      rintro rfl
      contradiction
    rw [if_neg hne, hend]

/-- Of the lines of a verdict the first one is its test point, and the only other ones that may be
lines of the protocol are those of the name. -/
theorem filter_lines_verdict (hf : style.format = .tap) (n : Nat) (v : Verdict) :
    ∃ first, (pointStart n v.passed).toList <+: first ∧
      (Text.lines (verdict style n v).toList).filter isPoint =
        first :: (laterLines v.testId).filter isPoint ∧
      (Text.lines (verdict style n v).toList).filter isPlan =
        (laterLines v.testId).filter isPlan := by
  obtain ⟨block, htext, -, hblock⟩ := toList_verdict hf n v
  obtain ⟨first, hfirst, hlines⟩ := lines_point (newline_not_mem_pointStart n v.passed)
    (getLast?_pointStart n v.passed) v.testId block
  obtain ⟨hpoint, hplan⟩ := isPoint_of_pointStart hfirst
  have hnopoint : (Text.lines block).filter isPoint = [] := by
    rw [List.filter_eq_nil_iff]
    intro line hline
    simp [(not_signal_of_spaces (hblock line hline)).1]
  have hnoplan : (Text.lines block).filter isPlan = [] := by
    rw [List.filter_eq_nil_iff]
    intro line hline
    simp [(not_signal_of_spaces (hblock line hline)).2]
  refine ⟨first, hfirst, ?_, ?_⟩
  · rw [htext, hlines, List.cons_append, List.filter_cons_of_pos hpoint, List.filter_append,
      hnopoint, List.append_nil]
  · rw [htext, hlines, List.cons_append, List.filter_cons_of_neg (by simp [hplan]),
      List.filter_append, hnoplan, List.append_nil]

/-! ## The lines of a report -/

/-- The lines of the first verdict come before those of the others. -/
theorem lines_verdicts_cons (hf : style.format = .tap) (n : Nat) (v : Verdict)
    (vs : List Verdict) :
    Text.lines (String.join (verdicts style n (v :: vs))).toList =
      Text.lines (verdict style n v).toList ++
        Text.lines (String.join (verdicts style (n + 1) vs)).toList := by
  rw [verdicts, String.join_cons, String.toList_append,
    Text.lines_append (.inr (getLast?_verdict hf n v))]

/-- There is a test point for each verdict and one for each other line of a name that looks like
one. -/
theorem length_points (hf : style.format = .tap) (n : Nat) (vs : List Verdict) :
    ((Text.lines (String.join (verdicts style n vs)).toList).filter isPoint).length =
      vs.length + (vs.flatMap fun v => (laterLines v.testId).filter isPoint).length := by
  induction vs generalizing n with
  | nil => simp [verdicts]
  | cons v vs ih =>
    obtain ⟨first, -, hpoints, -⟩ := filter_lines_verdict hf n v
    rw [lines_verdicts_cons hf, List.filter_append, List.length_append, hpoints, ih]
    simp only [List.length_cons, List.flatMap_cons, List.length_append]
    omega

/-- With no other line of a name that looks like a test point, the test points are those of the
verdicts. -/
theorem points_of_silent (hf : style.format = .tap) (n : Nat) {vs : List Verdict}
    (h : ∀ v ∈ vs, (laterLines v.testId).filter isPoint = []) {k : Nat} {v : Verdict}
    {line : List Char} (hv : vs[k]? = some v)
    (hline : ((Text.lines (String.join (verdicts style n vs)).toList).filter isPoint)[k]? =
      some line) :
    (pointStart (n + k) v.passed).toList <+: line := by
  induction vs generalizing n k with
  | nil => simp at hv
  | cons w vs ih =>
    obtain ⟨first, hfirst, hpoints, -⟩ := filter_lines_verdict hf n w
    rw [lines_verdicts_cons hf, List.filter_append, hpoints, h w List.mem_cons_self,
      List.singleton_append] at hline
    -- The first test point is that of the first verdict, and the others are counted on from it.
    cases k with
    | zero =>
      simp only [List.getElem?_cons_zero, Option.some.injEq] at hv hline
      rw [← hv, ← hline]
      exact hfirst
    | succ k =>
      rw [List.getElem?_cons_succ] at hv hline
      have hrest := ih (n + 1) (fun u hu => h u (List.mem_cons_of_mem w hu)) hv hline
      rwa [Nat.add_right_comm] at hrest

/-- What looks like a plan before the plan are lines of names. -/
theorem plans_verdicts (hf : style.format = .tap) (n : Nat) (vs : List Verdict) :
    (Text.lines (String.join (verdicts style n vs)).toList).filter isPlan =
      vs.flatMap fun v => (laterLines v.testId).filter isPlan := by
  induction vs generalizing n with
  | nil => simp [verdicts]
  | cons v vs ih =>
    obtain ⟨first, -, -, hplans⟩ := filter_lines_verdict hf n v
    rw [lines_verdicts_cons hf, List.filter_append, hplans, ih, List.flatMap_cons]

/-- A text consists of whole lines if it is empty or ends in a newline. -/
theorem lined_iff {text : String} :
    Lined text ↔ text.toList = [] ∨ text.toList.getLast? = some '\n' := by
  constructor
  · rintro (rfl | ⟨line, rfl⟩)
    · exact .inl rfl
    · rw [String.toList_append]
      exact .inr List.getLast?_concat
  · rintro (h | h)
    · exact .inl (String.toList_eq_nil_iff.mp h)
    · obtain ⟨line, hline⟩ := List.getLast?_eq_some_iff.mp h
      refine .inr ⟨String.ofList line, String.toList_injective ?_⟩
      rw [hline, String.toList_append, String.toList_ofList]
      rfl

/-- Verdicts are printed as whole lines. -/
theorem lined_verdicts (hf : style.format = .tap) (n : Nat) (vs : List Verdict) :
    Lined (String.join (verdicts style n vs)) := by
  refine lined_join fun t ht => ?_
  rw [verdicts_eq_mapIdx] at ht
  obtain ⟨k, hk, rfl⟩ := List.mem_mapIdx.mp ht
  exact lined_iff.mpr (.inr (getLast?_verdict hf _ _))

/-- A report is the line of the version, the lines of the verdicts, and the plan. -/
theorem lines_whole (hf : style.format = .tap) (files : Nat) (vs : List Verdict) :
    Text.lines (whole style files vs (.collect vs)).toList =
      "TAP version 14".toList ::
        (Text.lines (String.join (verdicts style 1 vs)).toList ++
          [(planLine vs.length).toList]) := by
  have htext : whole style files vs (.collect vs) =
      "TAP version 14\n" ++ (String.join (verdicts style 1 vs) ++ (planLine vs.length ++ "\n")) := by
    simp only [whole, start, finish, hf, (Summary.about_collect vs).total, String.append_assoc]
    rfl
  have hversion : "TAP version 14\n".toList = "TAP version 14".toList ++ ['\n'] := rfl
  have hplan : Text.lines (planLine vs.length ++ "\n").toList = [(planLine vs.length).toList] := by
    obtain ⟨hnewline, hreturn⟩ := not_mem_planLine vs.length
    have hnl : "\n".toList = ['\n'] := rfl
    rw [String.toList_append, hnl, Text.lines_line hnewline, Text.dropEnd,
      if_neg fun h => hreturn (List.mem_of_getLast? h), Text.lines_nil]
  rw [htext, String.toList_append, hversion, List.append_assoc, List.singleton_append,
    Text.lines_line (by decide), String.toList_append,
    Text.lines_append (lined_iff.mp (lined_verdicts hf 1 vs)), hplan]
  rfl

/-! ## Recovery -/

/-- No line of a name after the first one looks like a line of the protocol. -/
def Silent (name : String) : Prop :=
  ∀ line ∈ laterLines name, isPoint line = false ∧ isPlan line = false

/-- A name in one line is silent. -/
theorem silent_of_single_line {name : String} (h : '\n' ∉ name.toList) : Silent name := by
  intro line hline
  rw [laterLines, Text.lines_line h] at hline
  simp at hline

/-- The lines of silent names that look like lines of the protocol are none. -/
theorem silent_iff {name : String} : Silent name ↔
    (laterLines name).filter isPoint = [] ∧ (laterLines name).filter isPlan = [] := by
  simp only [Silent, List.filter_eq_nil_iff, Bool.not_eq_true]
  exact ⟨fun h => ⟨fun l hl => (h l hl).1, fun l hl => (h l hl).2⟩,
    fun h l hl => ⟨h.1 l hl, h.2 l hl⟩⟩

/-- A line-oriented reader recovers the number and the outcome of all tests from a report exactly if
no line of the name of a test after its first one looks like a line of the protocol, as with names
in one line. What is said about failed tests makes no difference. -/
theorem recovered_iff_names_silent (quiet color : Bool) (files : Nat) (vs : List Verdict) :
    (Recovered (Text.lines (whole ⟨.tap, quiet, color⟩ files vs (.collect vs)).toList) vs ↔
      ∀ v ∈ vs, Silent v.testId) ∧
    ∀ name : String, '\n' ∉ name.toList → Silent name := by
  refine ⟨?_, fun name => silent_of_single_line⟩
  have hf : (⟨.tap, quiet, color⟩ : Style).format = .tap := rfl
  generalize (⟨.tap, quiet, color⟩ : Style) = style at hf
  -- The version and the plan are no test points, and the version is no plan.
  have hpoints : (Text.lines (whole style files vs (.collect vs)).toList).filter isPoint =
      (Text.lines (String.join (verdicts style 1 vs)).toList).filter isPoint := by
    rw [lines_whole hf, List.filter_cons_of_neg (by decide), List.filter_append,
      List.filter_cons_of_neg (by simp [(isPlan_planLine vs.length).1]), List.filter_nil,
      List.append_nil]
  have hplans : (Text.lines (whole style files vs (.collect vs)).toList).filter isPlan =
      (vs.flatMap fun v => (laterLines v.testId).filter isPlan) ++
        [(planLine vs.length).toList] := by
    rw [lines_whole hf, List.filter_cons_of_neg (by decide), List.filter_append,
      plans_verdicts hf, List.filter_cons_of_pos (isPlan_planLine vs.length).2, List.filter_nil]
  constructor
  · rintro ⟨hcount, -, hplan⟩ v hv
    rw [hpoints, length_points hf] at hcount
    rw [hplans] at hplan
    rw [silent_iff]
    constructor
    · have hnil : (vs.flatMap fun v => (laterLines v.testId).filter isPoint) = [] := by
        rw [← List.length_eq_zero_iff]
        omega
      exact List.flatMap_eq_nil_iff.mp hnil v hv
    · have hnil : (vs.flatMap fun v => (laterLines v.testId).filter isPlan) = [] := by
        simpa using hplan
      exact List.flatMap_eq_nil_iff.mp hnil v hv
  · intro h
    have hnopoint : ∀ v ∈ vs, (laterLines v.testId).filter isPoint = [] :=
      fun v hv => (silent_iff.mp (h v hv)).1
    have hnoplan : ∀ v ∈ vs, (laterLines v.testId).filter isPlan = [] :=
      fun v hv => (silent_iff.mp (h v hv)).2
    refine ⟨?_, fun k v line hv hline => ?_, ?_⟩
    · rw [hpoints, length_points hf, List.flatMap_eq_nil_iff.mpr hnopoint, List.length_nil,
        Nat.add_zero]
    · rw [hpoints] at hline
      rw [Nat.add_comm k 1]
      exact points_of_silent hf 1 hnopoint hv hline
    · rw [hplans, List.flatMap_eq_nil_iff.mpr hnoplan, List.nil_append]

/-- The verdict on a test that has passed and whose name has a second line. -/
def twoLineVerdict : Verdict := .pass "t.yaml -> a\nok 2 - b"

/-- A reader finds two test points in the report on this one test. -/
theorem not_recovered_of_two_line_name :
    ¬ Recovered
      (Text.lines (whole ⟨.tap, false, false⟩ 1 [twoLineVerdict] (.collect [twoLineVerdict])).toList)
      [twoLineVerdict] := by
  intro h
  exact absurd h.count (by decide)

end BlackBox.Report
