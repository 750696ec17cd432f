import BlackBox.Proofs.Running
import BlackBox.Proofs.Text.LineEnds
import BlackBox.Proofs.Text.Words

/-!
# What a program is started with

A test case gives a program its arguments and its standard input. The arguments are the words of a
text, so that they reach the program as they have been written down, whatever the white space
between them (`run_passes_words`). The standard input is the encoding of the source text, so that a
program that copies it to one of its streams leaves there what is read as the source text with its
line ends normalised (`run_returns_source`).
-/

namespace BlackBox

/-! ## Arguments -/

/-- A program may be started at a path: there is a file that may be run, and the program is what it
does. -/
def Disk.Holds (d : Disk) (path : String) (program : Program) : Prop :=
  ∃ f, d.resolve path = .ok (.file f) ∧ f.executable = true ∧ f.program = some program

/-- A program is started with any arguments that have no null character. -/
theorem Disk.Holds.program?_eq {d : Disk} {path : String} {program : Program}
    (h : d.Holds path program) {args : List String} (hargs : ∀ a ∈ args, '\x00' ∉ a.toList) :
    d.program? path args = .ok program := by
  obtain ⟨f, hfile, hrun, hprogram⟩ := h
  simpa [Disk.program?, hfile, hrun, hprogram] using hargs

namespace TestCase

/-- The arguments of a test case are the words of its text. -/
theorem map_toList_arguments (t : TestCase) :
    t.arguments.map String.toList = Text.words t.args.toList := by
  simp [arguments, Text.splitWords, Function.comp_def]

/-- Words with white space around them are the arguments. -/
theorem arguments_of_spaced {t : TestCase} {ws : List String}
    (h : Text.Spaced (ws.map String.toList) t.args.toList)
    (hws : ∀ w ∈ ws, Text.IsWord w.toList) : t.arguments = ws := by
  have hwords : ∀ w ∈ ws.map String.toList, Text.IsWord w := List.forall_mem_map.mpr hws
  have hlists : t.arguments.map String.toList = ws.map String.toList := by
    rw [map_toList_arguments, Text.words_of_spaced h hwords]
  exact List.map_injective_iff.mpr (fun _ _ => String.toList_inj.mp) hlists

end TestCase

namespace Runner

variable {lib : Libraries} {d : Disk} {env : Environment} {t : TestCase} {program : Program}

/-- A program that can be started is judged by what it does with the arguments and the source. -/
theorem run_of_program? (h : d.program? env.executable t.arguments = .ok program) :
    run lib d env t = judge lib t (program t.arguments t.source.toUTF8) := by
  simp only [run, h]

/-- Words without null characters that are written down with white space around them, whatever
white space there is, are the arguments that the program is started with. Conversely, the arguments
of any test case are words, they are the text that they are taken from without its white space, and
there are none only if nothing else is in that text. -/
theorem run_passes_words (t : TestCase) :
    (∀ ws : List String, Text.Spaced (ws.map String.toList) t.args.toList →
      (∀ w ∈ ws, Text.IsWord w.toList ∧ '\x00' ∉ w.toList) →
      ∀ (lib : Libraries) (d : Disk) (env : Environment) (program : Program),
        d.Holds env.executable program →
          run lib d env t = judge lib t (program ws t.source.toUTF8)) ∧
    (∀ a ∈ t.arguments, Text.IsWord a.toList) ∧
    t.arguments.flatMap String.toList = t.args.toList.filter (!Text.isBlank ·) ∧
    (t.arguments = [] ↔ Text.Blank t.args.toList) := by
  refine ⟨fun ws hspaced hws lib d env program hholds => ?_, fun a ha => ?_, ?_, ?_⟩
  · have hargs : t.arguments = ws := TestCase.arguments_of_spaced hspaced fun w hw => (hws w hw).1
    have hstart : d.program? env.executable t.arguments = .ok program :=
      hholds.program?_eq fun a ha => (hws a (hargs ▸ ha)).2
    rw [run_of_program? hstart, hargs]
  · have hword : a.toList ∈ Text.words t.args.toList := by
      rw [← TestCase.map_toList_arguments]
      exact List.mem_map_of_mem ha
    exact Text.isWord_of_mem_words hword
  · rw [List.flatMap_def, TestCase.map_toList_arguments, Text.flatten_words]
  · rw [← Text.words_eq_nil_iff, ← TestCase.map_toList_arguments, List.map_eq_nil_iff]

/-- A program that shows its arguments. -/
def showingScript : Script := [.arguments .out]

/-- A disk with this program. -/
def showingDisk : Disk where
  root := .file "p" { executable := true, program := some showingScript.program } .empty
  current := "/"

/-- Two words, the one after a no-break space and the other after a line end and an ideographic
space, reach the program. -/
theorem run_passes_two_words :
    run plainLibraries showingDisk ⟨"/p"⟩
      { args := "\u00a0-x\r\n\u3000y ", expected := .exact "2\n[-x]\n[y]\n" } = .ok .passed := by
  have hspaced : Text.Spaced [['-', 'x'], ['y']]
      (['\u00a0'] ++ ['-', 'x'] ++ ['\r', '\n'] ++ (['\u3000'] ++ ['y'] ++ [' '])) :=
    .more _ (by decide) (by decide) (by decide) (.one _ (by decide) (by decide))
  obtain ⟨hpasses, -⟩ := run_passes_words
    { args := "\u00a0-x\r\n\u3000y ", expected := .exact "2\n[-x]\n[y]\n" }
  have hwords : ∀ w ∈ ["-x", "y"], Text.IsWord w.toList ∧ '\x00' ∉ w.toList := by
    simp only [List.forall_mem_cons, String.reduceToList]
    decide
  rw [hpasses ["-x", "y"] hspaced hwords plainLibraries showingDisk ⟨"/p"⟩
    showingScript.program ⟨_, rfl, rfl, rfl⟩]
  rfl

end Runner

/-! ## Standard input -/

/-- Started with some arguments, a program copies its standard input to a stream, writes nothing to
the other one, and ends with the code 0. -/
structure Program.Copies (program : Program) (args : List String) (s : Stream) : Prop where
  /-- All of the standard input is on the stream, whatever it is. -/
  output_eq : ∀ input, (program args input).output s = input
  /-- There is nothing on the other stream. -/
  silent : ∀ input other, other ≠ s → (program args input).output other = .empty
  /-- The program ends by itself. -/
  ending_eq : ∀ input, (program args input).ending = .exit 0

/-- The program of one step that copies its standard input. -/
theorem Script.copies (args : List String) (s : Stream) :
    Program.Copies (Script.program [.copy s]) args s := by
  have hrun : ∀ input, Script.program [.copy s] args input = ⟨[(s, input)], .exit 0⟩ := fun _ => rfl
  refine ⟨fun input => ?_, fun input other hother => ?_, fun input => rfl⟩
  · rw [hrun, Execution.output_cons, if_pos rfl]
    exact ByteArray.append_empty
  · rw [hrun, Execution.output_cons, if_neg hother.symm]
    rfl

namespace Runner

variable {lib : Libraries} {d : Disk} {env : Environment} {t : TestCase} {program : Program}

/-- The source text, copied to either stream, is read with its line ends normalised. -/
theorem judge_of_copies {s : Stream} (h : program.Copies t.arguments s) :
    judge lib t (program t.arguments t.source.toUTF8) =
      compare lib t 0 (Text.normalizeNewlines t.source) := by
  have hcode : (program t.arguments t.source.toUTF8).ending.code = 0 := by rw [h.ending_eq]; rfl
  -- The silent stream is read as the empty text, which changes nothing before or after the other.
  have hempty : Text.normalizeNewlines "" = "" := rfl
  cases s with
  | out =>
    have herr : (program t.arguments t.source.toUTF8).output .err = "".toUTF8 :=
      h.silent _ .err (by decide)
    rw [judge_of_texts (h.output_eq _) herr, hcode, combined, hempty, String.append_empty]
  | err =>
    have hout : (program t.arguments t.source.toUTF8).output .out = "".toUTF8 :=
      h.silent _ .out (by decide)
    rw [judge_of_texts hout (h.output_eq _), hcode, combined, hempty, String.empty_append]

/-- A test case with an exact expectation and the code 0 for a program that copies its standard
input to one of the streams passes exactly if the source text with its line ends normalised is
expected, and otherwise is told that this has been the output. A source text without carriage
returns before newlines is the right expectation itself. -/
theorem run_returns_source {s : Stream} {text : String} (hcopies : program.Copies t.arguments s)
    (hstart : d.program? env.executable t.arguments = .ok program) (hcode : t.exitCode = 0)
    (hexact : t.expected = .exact text) :
    (run lib d env t = .ok .passed ↔ text = Text.normalizeNewlines t.source) ∧
    (text ≠ Text.normalizeNewlines t.source →
      run lib d env t = .ok (.outputMismatch text (Text.normalizeNewlines t.source))) ∧
    (¬ "\r\n".toList <:+: t.source.toList → text = t.source → run lib d env t = .ok .passed) := by
  have hrun : run lib d env t = .ok (if Text.normalizeNewlines t.source = text then .passed
      else .outputMismatch text (Text.normalizeNewlines t.source)) := by
    rw [run_of_program? hstart, judge_of_copies hcopies, compare_of_exact hcode.symm hexact]
  have hiff : run lib d env t = .ok .passed ↔ text = Text.normalizeNewlines t.source := by
    rw [hrun]
    by_cases h : Text.normalizeNewlines t.source = text
    · simp [h]
    · simp [h, Ne.symm h]
  refine ⟨hiff, fun hne => ?_, fun hreturn htext => ?_⟩
  · rw [hrun, if_neg hne.symm]
  · rw [hiff, Text.normalizeNewlines_eq_self_iff.mpr hreturn, htext]

/-- A disk with a program that copies its standard input to its standard error. -/
def copyingDisk : Disk where
  root := .file "p" { executable := true, program := some (Script.program [.copy .err]) } .empty
  current := "/"

/-- Characters of two and of four bytes come back, and of two carriage returns before a newline one
does. -/
theorem run_returns_source_err :
    run plainLibraries copyingDisk ⟨"/p"⟩
      { source := "é\r\r\n\n𝄞\r", expected := .exact "é\r\n\n𝄞\r" } = .ok .passed := by
  have hstart : copyingDisk.program? "/p" [] = .ok (Script.program [.copy .err]) := rfl
  exact (run_returns_source (Script.copies [] .err) hstart rfl rfl).1.mpr (by decide)

end Runner

end BlackBox
