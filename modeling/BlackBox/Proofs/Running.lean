import BlackBox.Proofs.Outcome
import BlackBox.Proofs.Pattern.Search
import BlackBox.TestFile

/-!
# What a run comes to

A program that has run has left bytes on two streams and has ended with a code. What a test case
makes of that is decided by the first of five faults: the standard output is not text, the standard
error is not text, the code is wrong, the pattern cannot be looked for, and the output is not the
expected one. `Decided` states each of these as a case of its own, with what the result carries, and
`run_decided_by_first_fault` shows that every run of a program is decided in this way, and which
verdict an entry of a test file gets for it.

Only the bytes on each stream matter and not how the writes to the two streams are interleaved;
`Interleaved` is the relation between the two. Whether a pattern is found is stated by the matches
of its expression (`Proofs/Pattern/Search.lean`) and not by the search.
-/

namespace BlackBox

/-! ## Streams -/

/-- Writes that leave some bytes on the standard output and some on the standard error. The writes
to one stream may stand anywhere among those to the other. -/
inductive Interleaved : List (Stream × ByteArray) → ByteArray → ByteArray → Prop where
  | nil : Interleaved [] .empty .empty
  | out {ws : List (Stream × ByteArray)} {stdout stderr : ByteArray} (bytes : ByteArray) :
      Interleaved ws stdout stderr → Interleaved ((.out, bytes) :: ws) (bytes ++ stdout) stderr
  | err {ws : List (Stream × ByteArray)} {stdout stderr : ByteArray} (bytes : ByteArray) :
      Interleaved ws stdout stderr → Interleaved ((.err, bytes) :: ws) stdout (bytes ++ stderr)

namespace Execution

/-- The first write stands before what the others leave on its stream, and leaves nothing on the
other stream. -/
theorem output_cons (s : Stream) (w : Stream × ByteArray) (ws : List (Stream × ByteArray))
    (ending : Ending) : (⟨w :: ws, ending⟩ : Execution).output s =
      if w.1 = s then w.2 ++ (⟨ws, ending⟩ : Execution).output s
      else (⟨ws, ending⟩ : Execution).output s := by
  -- The fold begins with the bytes of the first write in place of none.
  have hfold : ∀ (vs : List (Stream × ByteArray)) (acc : ByteArray),
      vs.foldl (fun acc v => if v.1 = s then acc ++ v.2 else acc) acc =
        acc ++ vs.foldl (fun acc v => if v.1 = s then acc ++ v.2 else acc) .empty := by
    intro vs
    induction vs with
    | nil => intro acc; simp
    | cons v vs ih =>
      intro acc
      rw [List.foldl_cons, List.foldl_cons, ih,
        ih (if v.1 = s then ByteArray.empty ++ v.2 else .empty)]
      split_ifs <;> simp [ByteArray.append_assoc]
  unfold output
  rw [List.foldl_cons, hfold]
  split_ifs <;> simp

/-- The bytes that an interleaving leaves are those of the two streams. -/
theorem interleaved_iff {e : Execution} {stdout stderr : ByteArray} :
    Interleaved e.writes stdout stderr ↔ e.output .out = stdout ∧ e.output .err = stderr := by
  obtain ⟨ws, ending⟩ := e
  constructor
  · -- Each write goes in front of what the later ones leave on its stream.
    intro h
    dsimp only at h
    induction h with
    | nil => exact ⟨rfl, rfl⟩
    | out bytes _ ih =>
      obtain ⟨ho, he⟩ := ih
      simp [output_cons, ho, he]
    | err bytes _ ih =>
      obtain ⟨ho, he⟩ := ih
      simp [output_cons, ho, he]
  · rintro ⟨rfl, rfl⟩
    induction ws with
    | nil => exact .nil
    | cons w ws ih =>
      obtain ⟨s, bytes⟩ := w
      cases s with
      | out => simpa [output_cons] using ih.out bytes
      | err => simpa [output_cons] using ih.err bytes

end Execution

namespace Runner

variable {e : Execution} {s : Stream} {a : String}

/-- Bytes are the encoding of a text exactly if that text is what they are read as. -/
theorem fromUTF8?_eq_some_iff {bytes : ByteArray} :
    String.fromUTF8? bytes = some a ↔ bytes = a.toUTF8 := by
  unfold String.fromUTF8?
  constructor
  · intro h
    split at h
    · injection h with h
      subst h
      rfl
    · contradiction
  · rintro rfl
    rw [String.toUTF8_eq_toByteArray, dif_pos a.isValidUTF8]
    rfl

/-- The encoding of a text is read as the text with its line ends normalised. -/
theorem decode_of_text (h : e.output s = a.toUTF8) :
    decode e s = .ok (Text.normalizeNewlines a) := by
  rw [decode, fromUTF8?_eq_some_iff.mpr h]

/-- Bytes that encode no text are not read. -/
theorem decode_of_no_text (h : ∀ a : String, e.output s ≠ a.toUTF8) :
    decode e s = .error (.notText s) := by
  have hnone : String.fromUTF8? (e.output s) = none := by
    rw [Option.eq_none_iff_forall_ne_some]
    exact fun a ha => h a (fromUTF8?_eq_some_iff.mp ha)
  rw [decode, hnone]

end Runner

/-! ## Expectations -/

/-- What an output must be to meet an expectation: the text itself, or a text of which the pattern
matches some part. -/
def Expectation.Met (lib : Libraries) : Expectation → String → Prop
  | .exact text, output => output = text
  | .regex pattern, output => ∃ r, Pattern.compile? lib.fits pattern = some r ∧ r.OccursIn output

namespace Runner

variable {lib : Libraries} {t : TestCase} {e : Execution} {code : Int} {output a : String}

/-- A wrong exit code is reported before anything else about the output is looked at. -/
theorem compare_of_wrong_code (h : code ≠ t.exitCode) :
    compare lib t code output = .ok (.wrongExitCode t.exitCode code output) := by
  rw [compare, if_pos h]

/-- With the right exit code an exact text passes if it is the output. -/
theorem compare_of_exact (h : code = t.exitCode) {text : String} (ht : t.expected = .exact text) :
    compare lib t code output =
      .ok (if output = text then .passed else .outputMismatch text output) := by
  rw [compare, if_neg (not_not.mpr h), ht]

/-- With the right exit code a pattern that cannot be looked for is a failure. -/
theorem compare_of_bad_pattern (h : code = t.exitCode) {pattern : String}
    (ht : t.expected = .regex pattern) (hp : Pattern.compile? lib.fits pattern = none) :
    compare lib t code output = .error (.badPattern pattern) := by
  simp only [compare, if_neg (not_not.mpr h), ht, Pattern.isFoundIn?_eq_none_iff.mpr hp]

/-- With the right exit code a pattern passes if its expression matches a part of the output. -/
theorem compare_of_pattern (h : code = t.exitCode) {pattern : String}
    (ht : t.expected = .regex pattern) {r : Pattern.Regex}
    (hr : Pattern.compile? lib.fits pattern = some r) [Decidable (r.OccursIn output)] :
    compare lib t code output =
      .ok (if r.OccursIn output then .passed else .patternMismatch pattern output) := by
  have hfound : Pattern.isFoundIn? lib.fits pattern output = some (decide (r.OccursIn output)) := by
    by_cases ho : r.OccursIn output
    · simpa [ho] using Pattern.isFoundIn?_eq_true_iff.mpr ⟨r, hr, ho⟩
    · have hne : Pattern.isFoundIn? lib.fits pattern output ≠ some true := by
        rw [Ne, Pattern.isFoundIn?_eq_true_iff]
        rintro ⟨r', hr', ho'⟩
        rw [hr] at hr'
        injection hr' with hr'
        exact ho (hr' ▸ ho')
      obtain ⟨b, hb⟩ : ∃ b, Pattern.isFoundIn? lib.fits pattern output = some b :=
        ⟨_, by rw [Pattern.isFoundIn?, hr]; rfl⟩
      cases b with
      | true => exact absurd hb hne
      | false => simpa [ho] using hb
  rw [compare, if_neg (not_not.mpr h), ht]
  by_cases ho : r.OccursIn output <;> simp [hfound, ho]

/-- A test case passes exactly with the right exit code and an output that meets its expectation. -/
theorem compare_eq_passed_iff :
    compare lib t code output = .ok .passed ↔ code = t.exitCode ∧ t.expected.Met lib output := by
  classical
  by_cases h : code = t.exitCode
  · cases ht : t.expected with
    | exact text =>
      rw [compare_of_exact h ht]
      by_cases ho : output = text <;> simp [h, ho, Expectation.Met]
    | regex pattern =>
      -- A pattern that cannot be looked for is not met by any output.
      cases hp : Pattern.compile? lib.fits pattern with
      | none => simp [compare_of_bad_pattern h ht hp, Expectation.Met, hp]
      | some r =>
        rw [compare_of_pattern h ht hp]
        by_cases ho : r.OccursIn output <;> simp [h, ho, Expectation.Met, hp]
  · simp [compare_of_wrong_code h, h]

/-! ## Decisions -/

/-- The text that an expectation is compared with, if the two streams hold the given texts. -/
def combined (a b : String) : String := Text.normalizeNewlines a ++ Text.normalizeNewlines b

/-- How a test case decides on a code and on the bytes on the two streams. Every field but the first
is about one fault in the absence of those before it. -/
structure Decided (lib : Libraries) (t : TestCase) (code : Int) (stdout stderr : ByteArray)
    (result : Except Failure Outcome) : Prop where
  /-- The case passes exactly if there is no fault. -/
  passed_iff : result = .ok .passed ↔ ∃ a b : String, stdout = a.toUTF8 ∧ stderr = b.toUTF8 ∧
    code = t.exitCode ∧ t.expected.Met lib (combined a b)
  /-- The standard output is not text. -/
  stdout_not_text : (∀ a : String, stdout ≠ a.toUTF8) → result = .error (.notText .out)
  /-- The standard error is not text. -/
  stderr_not_text : ∀ a : String, stdout = a.toUTF8 → (∀ b : String, stderr ≠ b.toUTF8) →
    result = .error (.notText .err)
  /-- The code is wrong. -/
  wrong_code : ∀ a b : String, stdout = a.toUTF8 → stderr = b.toUTF8 → code ≠ t.exitCode →
    result = .ok (.wrongExitCode t.exitCode code (combined a b))
  /-- The pattern is none, or it is too large. -/
  bad_pattern : ∀ a b : String, stdout = a.toUTF8 → stderr = b.toUTF8 → code = t.exitCode →
    ∀ pattern, t.expected = .regex pattern → Pattern.compile? lib.fits pattern = none →
      result = .error (.badPattern pattern)
  /-- The pattern matches no part of the output. -/
  pattern_mismatch : ∀ a b : String, stdout = a.toUTF8 → stderr = b.toUTF8 → code = t.exitCode →
    ∀ pattern r, t.expected = .regex pattern → Pattern.compile? lib.fits pattern = some r →
      ¬ r.OccursIn (combined a b) → result = .ok (.patternMismatch pattern (combined a b))
  /-- The output is not the expected text. -/
  output_mismatch : ∀ a b : String, stdout = a.toUTF8 → stderr = b.toUTF8 → code = t.exitCode →
    ∀ text, t.expected = .exact text → combined a b ≠ text →
      result = .ok (.outputMismatch text (combined a b))

/-- With texts on both streams it remains to compare the code and the combined text. -/
theorem judge_of_texts {b : String} (ho : e.output .out = a.toUTF8)
    (he : e.output .err = b.toUTF8) :
    judge lib t e = compare lib t e.ending.code (combined a b) := by
  simp only [judge, decode_of_text ho, decode_of_text he, combined]

/-- What a program has done is decided by the bytes that its writes leave and its code. -/
theorem judge_decided {stdout stderr : ByteArray} (h : Interleaved e.writes stdout stderr) :
    Decided lib t e.ending.code stdout stderr (judge lib t e) := by
  classical
  obtain ⟨rfl, rfl⟩ := Execution.interleaved_iff.mp h
  have hout : (∀ a : String, e.output .out ≠ a.toUTF8) → judge lib t e = .error (.notText .out) :=
    fun ha => by simp only [judge, decode_of_no_text ha]
  have herr : ∀ a : String, e.output .out = a.toUTF8 → (∀ b : String, e.output .err ≠ b.toUTF8) →
      judge lib t e = .error (.notText .err) :=
    fun a ha hb => by simp only [judge, decode_of_text ha, decode_of_no_text hb]
  refine ⟨⟨fun hp => ?_, ?_⟩, hout, herr, ?_, ?_, ?_, ?_⟩
  · -- A case that has passed has met neither of the first two faults.
    obtain ⟨a, ha⟩ : ∃ a : String, e.output .out = a.toUTF8 := by
      by_contra hno
      rw [hout (not_exists.mp hno)] at hp
      contradiction
    obtain ⟨b, hb⟩ : ∃ b : String, e.output .err = b.toUTF8 := by
      by_contra hno
      rw [herr a ha (not_exists.mp hno)] at hp
      contradiction
    rw [judge_of_texts ha hb, compare_eq_passed_iff] at hp
    exact ⟨a, b, ha, hb, hp⟩
  · rintro ⟨a, b, ha, hb, hp⟩
    rw [judge_of_texts ha hb]
    exact compare_eq_passed_iff.mpr hp
  · intro a b ha hb hcode
    rw [judge_of_texts ha hb, compare_of_wrong_code hcode]
  · intro a b ha hb hcode pattern ht hp
    rw [judge_of_texts ha hb, compare_of_bad_pattern hcode ht hp]
  · intro a b ha hb hcode pattern r ht hr hno
    rw [judge_of_texts ha hb, compare_of_pattern hcode ht hr, if_neg hno]
  · intro a b ha hb hcode text ht hne
    rw [judge_of_texts ha hb, compare_of_exact hcode ht, if_neg hne]

end Runner

/-! ## Verdicts on entries -/

namespace TestFile

variable {lib : Libraries} {d : Disk} {env : Environment} {file : String} {entries : Entries}
  {t : TestCase}

/-- The verdict on an entry with an outcome follows from the outcome. -/
theorem runEntry_of_outcome (ht : TestCase.ofEntries entries = .ok t) {o : Outcome}
    (h : Runner.run lib d env t = .ok o) :
    runEntry lib d env file entries = .ofOutcome (file ++ " -> " ++ nameOf entries) o := by
  simp only [runEntry, ht, h]

/-- An entry without an outcome gets a failed verdict that says why. -/
theorem runEntry_of_failure (ht : TestCase.ofEntries entries = .ok t) {f : Failure}
    (h : Runner.run lib d env t = .error f) :
    runEntry lib d env file entries =
      .fail (file ++ " -> " ++ nameOf entries) ("Failed to run test: " ++ f.message lib) := by
  simp only [runEntry, ht, h]

/-- An entry that is no test case gets a failed verdict that says why. -/
theorem runEntry_of_malformed {m : TestCase.Malformed} (h : TestCase.ofEntries entries = .error m) :
    runEntry lib d env file entries =
      .fail (file ++ " -> " ++ nameOf entries) ("Invalid test case: " ++ m.message) := by
  simp only [runEntry, h]

/-- The verdict on an entry has a message exactly if the test has failed. -/
theorem runEntry_explained (lib : Libraries) (d : Disk) (env : Environment) (file : String)
    (entries : Entries) :
    (runEntry lib d env file entries).Explained := by
  cases ht : TestCase.ofEntries entries with
  | error m =>
    rw [runEntry_of_malformed ht]
    apply Verdict.explained_fail
    intro h
    exact absurd (String.append_eq_empty_iff.mp h).1 (by decide)
  | ok t =>
    cases hr : Runner.run lib d env t with
    | error f =>
      rw [runEntry_of_failure ht hr]
      apply Verdict.explained_fail
      intro h
      exact absurd (String.append_eq_empty_iff.mp h).1 (by decide)
    | ok o =>
      rw [runEntry_of_outcome ht hr]
      exact Verdict.explained_ofOutcome _ o

end TestFile

/-- Libraries of few words, for which no pattern is too large. -/
def plainLibraries : Libraries where
  documentError _ := "no document"
  patternError _ := "no pattern"
  fits _ := true

namespace Runner

/-- A program that can be started is decided on by the first fault of what it leaves behind, however
its writes are interleaved, and the verdict on an entry of a test file is a success exactly if the
entry passes; every other outcome and every failure, that of the start included, is a failed verdict
with its message. -/
theorem run_decided_by_first_fault (lib : Libraries) (d : Disk) (env : Environment)
    (t : TestCase) :
    (∀ program, d.program? env.executable t.arguments = .ok program → ∀ stdout stderr,
      Interleaved (program t.arguments t.source.toUTF8).writes stdout stderr →
      Decided lib t (program t.arguments t.source.toUTF8).ending.code stdout stderr
        (run lib d env t)) ∧
    (∀ fault, d.program? env.executable t.arguments = .error fault →
      run lib d env t = .error (.launch env.executable fault)) ∧
    ∀ (file : String) (entries : TestFile.Entries), TestCase.ofEntries entries = .ok t →
      ((TestFile.runEntry lib d env file entries).passed = true ↔ run lib d env t = .ok .passed) ∧
      (∀ o, run lib d env t = .ok o → o ≠ .passed → TestFile.runEntry lib d env file entries =
        .fail (file ++ " -> " ++ TestFile.nameOf entries) o.message) ∧
      (∀ f, run lib d env t = .error f → TestFile.runEntry lib d env file entries =
        .fail (file ++ " -> " ++ TestFile.nameOf entries)
          ("Failed to run test: " ++ f.message lib)) := by
  refine ⟨fun program hp stdout stderr h => ?_, fun fault hf => ?_, fun file entries ht => ?_⟩
  · have hrun : run lib d env t = judge lib t (program t.arguments t.source.toUTF8) := by
      simp only [run, hp]
    rw [hrun]
    exact judge_decided h
  · simp only [run, hf]
  · refine ⟨?_, fun o ho hne => ?_, fun f hf => TestFile.runEntry_of_failure ht hf⟩
    · cases hr : run lib d env t with
      | error f => simp [TestFile.runEntry_of_failure ht hr, Verdict.fail]
      | ok o =>
        rw [TestFile.runEntry_of_outcome ht hr, Verdict.ofOutcome_passed_iff]
        simp
    · rw [TestFile.runEntry_of_outcome ht ho, Verdict.ofOutcome_of_ne_passed hne]

/-- A program that writes to both streams in turn and dies from a signal. -/
def killedScript : Script :=
  [.write .err "x".toUTF8, .write .out "a\r\n".toUTF8, .write .err "y".toUTF8,
    .finish (.signal 9)]

/-- A disk with this program. -/
def killedDisk : Disk where
  root := .file "p" { executable := true, program := some killedScript.program } .empty
  current := "/"

/-- The program passes with the negated number of its signal as its code, for a pattern of a whole
line in its combined output, a newline, `a` before it and `xy` after it. -/
theorem run_passed_of_signal :
    run plainLibraries killedDisk ⟨"/p"⟩ { expected := .regex "^a$", exitCode := -9 } =
      .ok .passed := by
  obtain ⟨hdecided, -, -⟩ := run_decided_by_first_fault plainLibraries killedDisk ⟨"/p"⟩
    { expected := .regex "^a$", exitCode := -9 }
  have hmatch : Pattern.Regex.Matches "a\nxy".toList.toArray
      (.cat (.look .lineStart) (.cat (.set (.ranges [(97, 97)])) (.look .lineEnd))) 0 1 :=
    .cat (.look rfl) (.cat (.set rfl rfl) (.look rfl))
  refine (hdecided killedScript.program rfl _ _ (.err _ (.out _ (.err _ .nil)))).passed_iff.mpr ?_
  exact ⟨"a\r\n", "xy", rfl, rfl, rfl, _, rfl, 0, 1, by decide, by decide, hmatch⟩

end Runner

end BlackBox
