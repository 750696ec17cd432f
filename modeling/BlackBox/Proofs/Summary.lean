import Mathlib.Data.List.Basic
import BlackBox.Summary

/-!
# What a summary is about

`About s vs` says that a summary `s` accounts for a sequence of verdicts `vs`: it counts them, it
counts those that have passed, and it has the failed ones in their order. The empty summary is about
no verdicts, and recording and merging append verdicts; so each way of building a summary keeps the
relation, and a summary is determined by what it is about.

It follows that it makes no difference how a summary is built. However the ways of building one are
nested, and whatever is done with a stack of summaries, each of them is the one that is collected
from the verdicts that have gone into it, from left to right (`built_eq_collect`).
-/

namespace BlackBox.Summary

/-- A summary accounts for a sequence of verdicts. -/
structure About (s : Summary) (vs : List Verdict) : Prop where
  /-- All verdicts are counted. -/
  total : s.total = vs.length
  /-- Those that have passed are counted. -/
  passed : s.passed = vs.countP (·.passed)
  /-- Those that have failed are listed in order. -/
  failures : s.failures = (vs.filter (!·.passed)).map fun v => (v.testId, v.message)

/-- The empty summary is about no verdicts. -/
theorem about_empty : About {} [] := ⟨rfl, rfl, rfl⟩

/-- Recording a verdict appends it. -/
theorem About.record {s : Summary} {vs : List Verdict} (h : About s vs) (v : Verdict) :
    About (s.record v) (vs ++ [v]) := by
  unfold Summary.record
  cases hv : v.passed with
  | true =>
    refine ⟨?_, ?_, ?_⟩
    · simp [h.total]
    · simp [h.passed, hv]
    · simp [h.failures, hv]
  | false =>
    refine ⟨?_, ?_, ?_⟩
    · simp [h.total]
    · simp [h.passed, hv]
    · simp [h.failures, hv]

/-- Merging appends the verdicts of the other summary. -/
theorem About.merge {s t : Summary} {vs ws : List Verdict} (h : About s vs) (k : About t ws) :
    About (s.merge t) (vs ++ ws) := by
  refine ⟨?_, ?_, ?_⟩
  · simp [Summary.merge, h.total, k.total]
  · simp [Summary.merge, h.passed, k.passed]
  · simp [Summary.merge, h.failures, k.failures]

/-- Collecting verdicts gives a summary about them. -/
theorem about_collect (vs : List Verdict) : About (collect vs) vs := by
  -- The fold goes on from a summary that is already about some verdicts.
  suffices h : ∀ (vs ws : List Verdict) (s : Summary), About s ws →
      About (vs.foldl Summary.record s) (ws ++ vs) by
    simpa [collect] using h vs [] {} about_empty
  intro vs
  induction vs with
  | nil => intro ws s hs; simpa using hs
  | cons v vs ih =>
    intro ws s hs
    have hnext := ih (ws ++ [v]) (s.record v) (hs.record v)
    rwa [List.append_assoc] at hnext

/-- A summary is determined by what it is about. -/
theorem About.unique {s t : Summary} {vs : List Verdict} (h : About s vs) (k : About t vs) :
    s = t := by
  obtain ⟨total, passed, failures⟩ := s
  obtain ⟨total', passed', failures'⟩ := t
  rw [Summary.mk.injEq]
  exact ⟨h.total.trans k.total.symm, h.passed.trans k.passed.symm, h.failures.trans k.failures.symm⟩

/-- The number of failures is that of the verdicts that have not passed. -/
theorem About.failed {s : Summary} {vs : List Verdict} (h : About s vs) :
    s.failed = vs.countP (!·.passed) := by
  rw [Summary.failed, h.failures, List.length_map, List.countP_eq_length_filter]

/-- Every verdict has passed or failed. -/
theorem About.passed_add_failed {s : Summary} {vs : List Verdict} (h : About s vs) :
    s.passed + s.failed = s.total := by
  rw [h.passed, h.failed, h.total, List.length_eq_countP_add_countP (·.passed)]
  simp

/-- A summary is a success exactly if every verdict it is about has passed. -/
theorem About.isSuccess_iff {s : Summary} {vs : List Verdict} (h : About s vs) :
    s.isSuccess = true ↔ ∀ v ∈ vs, v.passed = true := by
  rw [isSuccess, List.isEmpty_iff, h.failures, List.map_eq_nil_iff, List.filter_eq_nil_iff]
  simp

/-- The counts of a summary fit together. -/
structure Balanced (s : Summary) : Prop where
  /-- Every test has passed or failed. -/
  total : s.passed + s.failed = s.total
  /-- All is well exactly if all tests have passed. -/
  success : s.isSuccess = true ↔ s.passed = s.total

/-- The counts of a summary that is about some verdicts fit together. -/
theorem About.balanced {s : Summary} {vs : List Verdict} (h : About s vs) : Balanced s := by
  have htotal := h.passed_add_failed
  refine ⟨htotal, ?_⟩
  have hfailed : s.isSuccess = true ↔ s.failed = 0 := by
    rw [isSuccess, Summary.failed, List.isEmpty_iff, List.length_eq_zero_iff]
  rw [hfailed]
  omega

/-! ## Merging -/

/-- Merging is associative. -/
theorem merge_assoc (s t u : Summary) : (s.merge t).merge u = s.merge (t.merge u) := by
  simp only [merge, Nat.add_assoc, List.append_assoc]

/-- There is nothing in the empty summary to be merged with. -/
theorem empty_merge (s : Summary) : merge {} s = s := by
  simp only [merge, Nat.zero_add, List.nil_append]

/-- There is nothing in the empty summary to be merged. -/
theorem merge_empty (s : Summary) : s.merge {} = s := by
  simp only [merge, Nat.add_zero, List.append_nil]

/-- A verdict that is recorded last may be recorded before or after merging. -/
theorem merge_record (s t : Summary) (v : Verdict) : (s.merge t).record v = s.merge (t.record v) := by
  cases hv : v.passed with
  | true => simp only [record, merge, hv, if_true, Nat.add_assoc]
  | false =>
    simp only [record, merge, hv, Bool.false_eq_true, if_false, Nat.add_assoc, List.append_assoc]

/-- The summary of verdicts and of one more. -/
theorem collect_concat (vs : List Verdict) (v : Verdict) :
    collect (vs ++ [v]) = (collect vs).record v :=
  (about_collect _).unique ((about_collect vs).record v)

/-- The summary of verdicts and of others after them. -/
theorem collect_append (vs ws : List Verdict) :
    collect (vs ++ ws) = (collect vs).merge (collect ws) :=
  (about_collect _).unique ((about_collect vs).merge (about_collect ws))

/-! ## Ways of building summaries -/

/-- What can be done with verdicts: nothing yet, a list of them taken at once, one more verdict
added, and two results put together. -/
structure Operations (α : Type) where
  /-- Of no verdicts. -/
  empty : α
  /-- Of a list of verdicts. -/
  collect : List Verdict → α
  /-- With one more verdict. -/
  record : α → Verdict → α
  /-- Of two results, the first one before the second. -/
  merge : α → α → α

/-- Verdicts make a summary. -/
def summaries : Operations Summary := ⟨{}, Summary.collect, Summary.record, Summary.merge⟩

/-- Verdicts are put one after the other. -/
def sequences : Operations (List Verdict) := ⟨[], id, fun vs v => vs ++ [v], (· ++ ·)⟩

/-- The operations nested in any way. -/
inductive Nesting where
  /-- No verdicts. -/
  | empty
  /-- A list of verdicts. -/
  | collect (vs : List Verdict)
  /-- One more verdict. -/
  | record (n : Nesting) (v : Verdict)
  /-- Two results. -/
  | merge (m n : Nesting)
  deriving Repr, DecidableEq

/-- The result of nested operations. -/
def Nesting.eval {α : Type} (o : Operations α) : Nesting → α
  | empty => o.empty
  | collect vs => o.collect vs
  | record n v => o.record (n.eval o) v
  | merge m n => o.merge (m.eval o) (n.eval o)

/-- A step that is done with a stack of results. -/
inductive Step where
  /-- The result for no verdicts is put on the stack. -/
  | new
  /-- That for a list of verdicts is put on the stack. -/
  | collect (vs : List Verdict)
  /-- One more verdict is added to the result on top. -/
  | record (v : Verdict)
  /-- The result on top is merged into the one below it. -/
  | merge
  deriving Repr, DecidableEq

/-- The stack after a step, its top first, unless there are too few results on it. -/
def Step.next? {α : Type} (o : Operations α) : Step → List α → Option (List α)
  | new, stack => some (o.empty :: stack)
  | collect vs, stack => some (o.collect vs :: stack)
  | record v, top :: stack => some (o.record top v :: stack)
  | merge, top :: below :: stack => some (o.merge below top :: stack)
  | record _, [] | merge, [] | merge, [_] => none

/-- The stack after some steps that begin with an empty one. -/
def Step.run? {α : Type} (o : Operations α) (steps : List Step) : Option (List α) :=
  steps.foldlM (fun stack step => step.next? o stack) []

/-- A nesting of operations gives the summary of the sequence that it gives. -/
theorem eval_summaries (n : Nesting) : n.eval summaries = collect (n.eval sequences) := by
  induction n with
  | empty => rfl
  | collect vs => rfl
  | record n v ih =>
    calc (Nesting.record n v).eval summaries
      _ = (n.eval summaries).record v := rfl
      _ = (collect (n.eval sequences)).record v := by rw [ih]
      _ = collect (n.eval sequences ++ [v]) := (collect_concat _ v).symm
  | merge m n ihm ihn =>
    calc (Nesting.merge m n).eval summaries
      _ = (m.eval summaries).merge (n.eval summaries) := rfl
      _ = (collect (m.eval sequences)).merge (collect (n.eval sequences)) := by rw [ihm, ihn]
      _ = collect (m.eval sequences ++ n.eval sequences) := (collect_append _ _).symm

/-- A step keeps a stack of summaries that of sequences, and is possible with both or with
neither. -/
theorem next?_summaries (step : Step) (stack : List (List Verdict)) :
    step.next? summaries (stack.map collect) =
      (step.next? sequences stack).map (·.map collect) := by
  cases step with
  | new => rfl
  | collect vs => rfl
  | record v =>
    cases stack with
    | nil => rfl
    | cons vs stack =>
      have htop : summaries.record (collect vs) v = collect (sequences.record vs v) :=
        (collect_concat vs v).symm
      simp only [List.map_cons, Step.next?, Option.map_some, htop]
  | merge =>
    match stack with
    | [] => rfl
    | [_] => rfl
    | ws :: vs :: stack =>
      have htop : summaries.merge (collect vs) (collect ws) = collect (sequences.merge vs ws) :=
        (collect_append vs ws).symm
      simp only [List.map_cons, Step.next?, Option.map_some, htop]

/-- The stack of summaries after some steps is that of the sequences after the same steps. -/
theorem run?_summaries (steps : List Step) :
    Step.run? summaries steps = (Step.run? sequences steps).map (·.map collect) := by
  -- The steps go on from any stack of summaries that is one of sequences.
  suffices h : ∀ stack : List (List Verdict),
      steps.foldlM (fun stack (step : Step) => step.next? summaries stack) (stack.map collect) =
        (steps.foldlM (fun stack (step : Step) => step.next? sequences stack) stack).map
          (·.map collect) from h []
  induction steps with
  | nil => exact fun stack => rfl
  | cons step steps ih =>
    intro stack
    rw [List.foldlM_cons, List.foldlM_cons, next?_summaries]
    cases step.next? sequences stack with
    | none => rfl
    | some next => exact ih next

/-- A summary on the stack is that of some verdicts. -/
theorem exists_collect_of_mem {steps : List Step} {stack : List Summary} {s : Summary}
    (h : Step.run? summaries steps = some stack) (hs : s ∈ stack) : ∃ vs, s = collect vs := by
  rw [run?_summaries] at h
  obtain ⟨sequence, -, rfl⟩ := Option.map_eq_some_iff.mp h
  obtain ⟨vs, -, rfl⟩ := List.mem_map.mp hs
  exact ⟨vs, rfl⟩

/-- However a summary is built, by nested operations or on a stack, it is the one that is collected
from all verdicts that have gone into it, from left to right, and its counts fit together. Merging
is associative, the empty summary changes nothing, collecting a list in two parts is merging what is
collected of them, and a verdict recorded after merging is recorded in the second summary. -/
theorem built_eq_collect :
    (∀ n : Nesting, n.eval summaries = collect (n.eval sequences) ∧
      Balanced (n.eval summaries)) ∧
    (∀ steps : List Step,
      Step.run? summaries steps = (Step.run? sequences steps).map (·.map collect)) ∧
    (∀ (steps : List Step) (stack : List Summary), Step.run? summaries steps = some stack →
      ∀ s ∈ stack, Balanced s) ∧
    (∀ s t u : Summary, (s.merge t).merge u = s.merge (t.merge u)) ∧
    (∀ s : Summary, merge {} s = s ∧ s.merge {} = s) ∧
    (∀ vs ws : List Verdict, collect (vs ++ ws) = (collect vs).merge (collect ws)) ∧
    (∀ (s t : Summary) (v : Verdict), (s.merge t).record v = s.merge (t.record v)) := by
  refine ⟨fun n => ⟨eval_summaries n, ?_⟩, run?_summaries, fun steps stack h s hs => ?_,
    merge_assoc, fun s => ⟨empty_merge s, merge_empty s⟩, collect_append, merge_record⟩
  · rw [eval_summaries]
    exact (about_collect _).balanced
  · obtain ⟨vs, rfl⟩ := exists_collect_of_mem h hs
    exact (about_collect vs).balanced

/-- Verdicts that are merged into others come after them, also those that are recorded later. -/
example (u v w : Verdict) :
    Step.run? sequences [.collect [u], .new, .record v, .merge, .record w] = some [[u, v, w]] := rfl

end BlackBox.Summary
