import BlackBox.Proofs.Outcome
import BlackBox.Proofs.Summary
import BlackBox.Report.Reporter

/-!
# What a report says

A report in TAP format has a test point for each verdict, numbered from one in the order of the
verdicts, between the version and the plan (`whole_tap`). It shows the message of every failed test
because a verdict has a message exactly if the test has failed (`Verdict.Explained`). A report for
people consists of whole lines, and the last of them say whether all is well or what has failed
(`whole_summary_of_success`, `whole_summary_of_failure`). It begins with a line for each test unless
it is quiet, and the rest of it is the quiet report (`whole_loud`).
-/

namespace BlackBox.Report

variable {style : Style} {vs : List Verdict} {s : Summary}

/-- What is printed for verdicts is printed for each with its number. -/
theorem verdicts_eq_mapIdx (style : Style) (n : Nat) (vs : List Verdict) :
    verdicts style n vs = vs.mapIdx fun k v => verdict style (n + k) v := by
  induction vs generalizing n with
  | nil => rfl
  | cons v vs ih =>
    have hshift : (fun k v => verdict style (n + 1 + k) v) =
        fun k v => verdict style (n + (k + 1)) v := by
      funext k v
      rw [Nat.add_assoc, Nat.add_comm 1 k]
    simp only [verdicts, ih, List.mapIdx_cons, Nat.add_zero, hshift]

/-! ## Test points -/

/-- The lines of a test point: the number of a test and its name, and what is wrong with it if it
has failed. -/
def testPoint (number : Nat) (v : Verdict) : String :=
  if v.passed then s!"ok {number} - {v.testId}\n"
  else s!"not ok {number} - {v.testId}\n" ++ Tap.diagnosticsBlock v.message

/-- In TAP format a verdict is printed as its test point. -/
theorem verdict_tap (hf : style.format = .tap) (number : Nat) {v : Verdict} (hv : v.Explained) :
    verdict style number v = testPoint number v := by
  cases hp : v.passed with
  | true => simp only [verdict, hf, testPoint, hp, if_true, Tap.ok]
  | false =>
    have hm : v.message.isEmpty = false := by
      rw [Bool.eq_false_iff, ne_eq, String.isEmpty_iff]
      intro hempty
      rw [hv.mpr hempty] at hp
      contradiction
    simp only [verdict, hf, testPoint, hp, Bool.false_eq_true, if_false, Tap.notOk, hm]

/-- A report in TAP format: the version, the test points with numbers from one, and the plan. -/
theorem whole_tap (hf : style.format = .tap) (files : Nat) (hv : ∀ v ∈ vs, v.Explained)
    (hs : s.About vs) :
    whole style files vs s = "TAP version 14\n" ++
      String.join (vs.mapIdx fun k v => testPoint (k + 1) v) ++ s!"1..{vs.length}\n" := by
  have hpoints : verdicts style 1 vs = vs.mapIdx fun k v => testPoint (k + 1) v := by
    rw [verdicts_eq_mapIdx]
    apply List.ext_getElem
    · simp
    · intro k hk _
      rw [List.length_mapIdx] at hk
      rw [List.getElem_mapIdx, List.getElem_mapIdx, verdict_tap hf _ (hv _ (List.getElem_mem hk)),
        Nat.add_comm 1 k]
  simp only [whole, start, finish, hf, hpoints, Tap.version, Tap.plan, hs.total]
  rfl

/-! ## Lines -/

/-- A text that consists of whole lines. -/
def Lined (text : String) : Prop := text = "" ∨ ∃ line, text = line ++ "\n"

/-- A text ends in some lines, which begin at the beginning of a line. -/
def EndsIn (text tail : String) : Prop := ∃ before, Lined before ∧ text = before ++ tail

/-- A text that ends in a newline consists of whole lines. -/
theorem lined_newline (line : String) : Lined (line ++ "\n") := .inr ⟨line, rfl⟩

/-- Whole lines after whole lines are whole lines. -/
theorem Lined.append {a b : String} (ha : Lined a) (hb : Lined b) : Lined (a ++ b) := by
  rcases hb with rfl | ⟨line, rfl⟩
  · rwa [String.append_empty]
  · rw [← String.append_assoc]
    exact lined_newline _

/-- Texts of whole lines after each other are whole lines. -/
theorem lined_join {texts : List String} (h : ∀ t ∈ texts, Lined t) :
    Lined (String.join texts) := by
  induction texts with
  | nil => exact .inl String.join_nil
  | cons t ts ih =>
    rw [String.join_cons]
    exact (h t List.mem_cons_self).append (ih fun u hu => h u (List.mem_cons_of_mem t hu))

/-- Before its end, a report for people consists of whole lines. -/
theorem lined_before_finish (hf : style.format = .summary) (files : Nat) (vs : List Verdict) :
    Lined (start style files ++ String.join (verdicts style 1 vs)) := by
  refine Lined.append ?_ (lined_join fun t ht => ?_)
  · simp only [start, hf]
    split_ifs
    · exact .inl rfl
    · have hline : toString " testfiles:\n" = " testfiles:" ++ "\n" := rfl
      rw [hline, ← String.append_assoc]
      exact lined_newline _
  · rw [verdicts_eq_mapIdx] at ht
    obtain ⟨k, hk, rfl⟩ := List.mem_mapIdx.mp ht
    simp only [verdict, hf]
    split_ifs
    · exact .inl rfl
    · exact lined_newline _

/-! ## Endings -/

/-- The list of the failed tests, with a line for the name of each and its message. -/
def failureList (vs : List Verdict) : String :=
  String.join ((vs.filter (!·.passed)).map fun v => s!"   {v.testId}\n{v.message}\n")

/-- A report for people on tests that have all passed ends by saying so. -/
theorem whole_summary_of_success (hf : style.format = .summary) (files : Nat) (hs : s.About vs)
    (h : s.isSuccess = true) :
    EndsIn (whole style files vs s) s!":D   All {vs.length} tests OK.\n" := by
  refine ⟨_, lined_before_finish hf files vs, ?_⟩
  simp only [whole, finish, hf, summaryText, h, if_true, hs.total]

/-- A report for people on tests of which some have failed ends with a list of them and their
number. -/
theorem whole_summary_of_failure (hf : style.format = .summary) (files : Nat) (hs : s.About vs)
    (h : s.isSuccess = false) :
    EndsIn (whole style files vs s)
      (failureList vs ++ s!">:(   {vs.countP (!·.passed)} of {vs.length} tests failed.\n") := by
  refine ⟨_, (lined_before_finish hf files vs).append
    (lined_newline "\n********************* Failed tests *********************"), ?_⟩
  simp only [whole, finish, hf, summaryText, h, Bool.false_eq_true, if_false, hs.total, hs.failed,
    hs.failures, List.map_map, failureList, String.append_assoc]
  rfl

/-! ## Quiet reports -/

/-- The line of a test in a report for people: how it has ended, and its name. -/
def item (v : Verdict) : String := if v.passed then s!"OK {v.testId}\n" else s!":( {v.testId}\n"

/-- Without colours a verdict is printed as its item. -/
theorem verdictLine_eq_item (v : Verdict) : verdictLine false v = item v := by
  cases hp : v.passed with
  | true =>
    simp only [verdictLine, item, hp, if_true, colored, Bool.false_eq_true, if_false]
    rfl
  | false =>
    simp only [verdictLine, item, hp, colored, Bool.false_eq_true, if_false]
    rfl

/-- If verdicts are printed without their numbers, each of them is printed on its own. -/
theorem verdicts_eq_map {print : Verdict → String} (h : ∀ n v, verdict style n v = print v) (n : Nat)
    (vs : List Verdict) : verdicts style n vs = vs.map print := by
  induction vs generalizing n with
  | nil => rfl
  | cons v vs ih => rw [verdicts, h, ih, List.map_cons]

/-- A quiet report for people says nothing of the verdicts before its end. -/
theorem whole_quiet (color : Bool) (files : Nat) (vs : List Verdict) (s : Summary) :
    whole ⟨.summary, true, color⟩ files vs s = summaryText s := by
  have hsilent : verdicts ⟨.summary, true, color⟩ 1 vs = vs.map fun _ => "" :=
    verdicts_eq_map (fun _ _ => rfl) 1 vs
  have hempty : ∀ vs : List Verdict, String.join (vs.map fun _ => "") = "" := by
    intro vs
    induction vs with
    | nil => rfl
    | cons v vs ih => rw [List.map_cons, String.join_cons, ih, String.append_empty]
  rw [whole, hsilent, hempty]
  exact (String.append_assoc).trans ((String.empty_append).trans (String.empty_append))

/-- A report for people begins with the number of files and a line for each test, if it is not
quiet, and then it is the quiet report. -/
theorem whole_loud (files : Nat) (vs : List Verdict) (s : Summary) :
    whole ⟨.summary, false, false⟩ files vs s = s!"Running {files} testfiles:\n" ++
      String.join (vs.map item) ++ whole ⟨.summary, true, false⟩ files vs s := by
  have hitems : verdicts ⟨.summary, false, false⟩ 1 vs = vs.map item :=
    verdicts_eq_map (fun _ v => by rw [← verdictLine_eq_item]; rfl) 1 vs
  rw [whole_quiet, whole, hitems]
  rfl

/-- A report in TAP format is the same whether it is quiet or not. -/
theorem whole_tap_quiet (quiet color : Bool) (files : Nat) (vs : List Verdict) (s : Summary) :
    whole ⟨.tap, quiet, color⟩ files vs s = whole ⟨.tap, false, false⟩ files vs s := by
  have hverdicts : verdicts ⟨.tap, quiet, color⟩ 1 vs = verdicts ⟨.tap, false, false⟩ 1 vs := by
    rw [verdicts_eq_mapIdx, verdicts_eq_mapIdx]
    rfl
  rw [whole, whole, hverdicts]
  rfl

/-- The end of a report for people shows each failed test with its message. -/
theorem summaryText_shows {v : Verdict} (hs : s.About vs) (hv : v ∈ vs) (hp : v.passed = false) :
    ∃ before after, summaryText s = before ++ s!"   {v.testId}\n{v.message}\n" ++ after := by
  have hfailure : s.isSuccess = false := by
    by_contra hno
    rw [Bool.not_eq_false, hs.isSuccess_iff] at hno
    rw [hno v hv] at hp
    cases hp
  have hmem : (v.testId, v.message) ∈ s.failures := by
    rw [hs.failures]
    exact List.mem_map_of_mem (List.mem_filter.mpr ⟨hv, by rw [hp]; rfl⟩)
  -- The list of failures is what comes before this one, this one, and what comes after it.
  obtain ⟨earlier, later, hfailures⟩ := List.append_of_mem hmem
  have hjoin : String.join (s.failures.map fun f => s!"   {f.1}\n{f.2}\n") =
      String.join (earlier.map fun f => s!"   {f.1}\n{f.2}\n") ++
        (s!"   {v.testId}\n{v.message}\n" ++
          String.join (later.map fun f => s!"   {f.1}\n{f.2}\n")) := by
    rw [hfailures, List.map_append, String.join_append, List.map_cons, String.join_cons]
  refine ⟨"\n********************* Failed tests *********************\n" ++
    String.join (earlier.map fun f => s!"   {f.1}\n{f.2}\n"),
    String.join (later.map fun f => s!"   {f.1}\n{f.2}\n") ++
      s!">:(   {s.failed} of {s.total} tests failed.\n", ?_⟩
  rw [summaryText, hfailure, if_neg (by decide), hjoin]
  simp only [String.append_assoc]

end BlackBox.Report
