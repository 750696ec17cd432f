import BlackBox.Proofs.Launch
import BlackBox.Proofs.Text.LineEnds

/-!
# Line ends across the streams

The output of a program is what is on its two streams, one after the other, and each of them is
normalised before they are put together. `Normalized` says what normalising does to one text: it
takes out the carriage returns that stand directly before newlines, and as only one is taken out
before each newline, another one may stand there afterwards. `Apart` compares the output with what
it would be if the streams were put together first. The two are the same unless a carriage return
ends the standard output and a newline begins the standard error; then the output keeps this
carriage return. `run_normalizes_streams_apart` shows both for every run of a program.
-/

namespace BlackBox

namespace Text

/-! ## One text -/

/-- A text is another text with its line ends normalised. -/
structure Normalized (text out : String) : Prop where
  /-- The carriage returns directly before newlines are taken out, and nothing else is. -/
  kept : out.toList = withoutReturns text.toList
  /-- That is what replacing the line ends from the beginning of the text leaves. -/
  scanned : out.toList = replaced text.toList
  /-- There are carriage returns before newlines afterwards exactly if there have been two before
  a newline. -/
  left_iff : "\r\n".toList <:+: out.toList ↔ "\r\r\n".toList <:+: text.toList
  /-- To normalise once more changes nothing exactly if there have not been two. -/
  again_iff : normalizeNewlines out = out ↔ ¬ "\r\r\n".toList <:+: text.toList

/-- What a text is normalised to has lost its carriage returns before newlines, one before each. -/
theorem normalized_normalizeNewlines (text : String) :
    Normalized text (normalizeNewlines text) := by
  have hleft : "\r\n".toList <:+: (normalizeNewlines text).toList ↔
      "\r\r\n".toList <:+: text.toList := by
    rw [toList_normalizeNewlines]
    exact return_newline_infix_normalize_iff
  refine ⟨?_, ?_, hleft, ?_⟩
  · rw [toList_normalizeNewlines, normalize_eq_withoutReturns]
  · rw [toList_normalizeNewlines, normalize_eq_replaced]
  · rw [normalizeNewlines_eq_self_iff, hleft]

/-! ## Two texts -/

/-- How two texts that are normalised apart and then put together differ from the one text that they
are together. -/
structure Apart (a b out : String) : Prop where
  /-- Only a line end that is divided between the two makes a difference. -/
  eq_iff : out = normalizeNewlines (a ++ b) ↔ ¬ Seam a.toList b.toList
  /-- A divided line end has its carriage return still, and what is around it is the same. -/
  at_seam : Seam a.toList b.toList → ∃ front rest : String,
    normalizeNewlines a = front ++ "\r" ∧ normalizeNewlines b = "\n" ++ rest ∧
      out = front ++ "\r\n" ++ rest ∧ normalizeNewlines (a ++ b) = front ++ "\n" ++ rest

/-- Texts that are normalised apart differ from the one text at the seam only. -/
theorem apart_append (a b : String) : Apart a b (normalizeNewlines a ++ normalizeNewlines b) := by
  refine ⟨?_, fun hseam => ?_⟩
  · rw [← normalize_append_eq_iff, ← String.toList_inj]
    simp only [String.toList_append, toList_normalizeNewlines]
    exact eq_comm
  · obtain ⟨front, rest, ha, hb, hboth⟩ := normalize_append_of_seam hseam
    have hfirst : normalizeNewlines a = String.ofList front ++ "\r" := by
      rw [← String.toList_inj, toList_normalizeNewlines, ha]
      simp
    have hsecond : normalizeNewlines b = "\n" ++ String.ofList rest := by
      rw [← String.toList_inj, toList_normalizeNewlines, hb]
      simp
    have hwhole : normalizeNewlines (a ++ b) = String.ofList front ++ "\n" ++ String.ofList rest := by
      rw [← String.toList_inj, toList_normalizeNewlines, String.toList_append, hboth]
      simp
    have hends : "\r" ++ "\n" = "\r\n" := by decide
    have hapart : normalizeNewlines a ++ normalizeNewlines b =
        String.ofList front ++ "\r\n" ++ String.ofList rest := by
      calc normalizeNewlines a ++ normalizeNewlines b
        _ = String.ofList front ++ "\r" ++ ("\n" ++ String.ofList rest) := by rw [hfirst, hsecond]
        _ = String.ofList front ++ ("\r" ++ "\n") ++ String.ofList rest := by
          simp only [String.append_assoc]
        _ = String.ofList front ++ "\r\n" ++ String.ofList rest := by rw [hends]
    exact ⟨String.ofList front, String.ofList rest, hfirst, hsecond, hapart, hwhole⟩

end Text

/-! ## The output of a program -/

namespace Runner

variable {lib : Libraries} {d : Disk} {env : Environment} {t : TestCase} {program : Program}
  {a b : String}

/-- A program that leaves texts on its streams is compared by its code and its combined output. -/
theorem run_of_texts (hstart : d.program? env.executable t.arguments = .ok program)
    (hwrites : Interleaved (program t.arguments t.source.toUTF8).writes a.toUTF8 b.toUTF8) :
    run lib d env t =
      compare lib t (program t.arguments t.source.toUTF8).ending.code (combined a b) := by
  obtain ⟨hout, herr⟩ := Execution.interleaved_iff.mp hwrites
  rw [run_of_program? hstart, judge_of_texts hout herr]

/-- Normalising the line ends of a text takes out the carriage returns directly before newlines, and
what a program leaves on its two streams is normalised apart. So its output is the normalised text
of both streams together exactly if no line end is divided between the streams, and otherwise it has
one carriage return more, at the seam. A test case that expects the normalised text of both
together, and the code that the program ends with, passes exactly if there is no such line end. -/
theorem run_normalizes_streams_apart (a b : String) :
    Text.Normalized a (Text.normalizeNewlines a) ∧
    Text.Apart a b (Text.normalizeNewlines a ++ Text.normalizeNewlines b) ∧
    ∀ (lib : Libraries) (d : Disk) (env : Environment) (t : TestCase) (program : Program),
      d.program? env.executable t.arguments = .ok program →
      Interleaved (program t.arguments t.source.toUTF8).writes a.toUTF8 b.toUTF8 →
      run lib d env t = compare lib t (program t.arguments t.source.toUTF8).ending.code
        (Text.normalizeNewlines a ++ Text.normalizeNewlines b) ∧
      ((program t.arguments t.source.toUTF8).ending.code = t.exitCode →
        t.expected = .exact (Text.normalizeNewlines (a ++ b)) →
        (run lib d env t = .ok .passed ↔ ¬ Text.Seam a.toList b.toList)) := by
  have hapart := Text.apart_append a b
  refine ⟨Text.normalized_normalizeNewlines a, hapart, fun lib d env t program hstart hwrites => ?_⟩
  have hrun : run lib d env t = _ := run_of_texts hstart hwrites
  refine ⟨hrun, fun hcode hexact => ?_⟩
  -- The expectation is met exactly if it makes no difference that the streams are apart.
  rw [hrun, compare_eq_passed_iff, hexact, ← hapart.eq_iff]
  exact and_iff_right hcode

/-- A program that ends its standard output in the middle of a line end. -/
def dividingScript : Script :=
  [.write .err "\n".toUTF8, .write .out "x\r\r".toUTF8, .write .err "y".toUTF8]

/-- A disk with this program. -/
def dividingDisk : Disk where
  root := .file "p" { executable := true, program := some dividingScript.program } .empty
  current := "/"

/-- Of the two carriage returns before the newline none is lost, although one is lost from the text
of both streams together, so that a case which expects that text does not pass. -/
theorem run_fails_of_divided_line_end :
    Text.normalizeNewlines ("x\r\r" ++ "\ny") = "x\r\ny" ∧
    Text.normalizeNewlines "x\r\r" ++ Text.normalizeNewlines "\ny" = "x\r\r\ny" ∧
    run plainLibraries dividingDisk ⟨"/p"⟩ { expected := .exact "x\r\ny" } ≠ .ok .passed := by
  obtain ⟨-, -, hruns⟩ := run_normalizes_streams_apart "x\r\r" "\ny"
  have hwrites : Interleaved (dividingScript.program [] "".toUTF8).writes
      "x\r\r".toUTF8 "\ny".toUTF8 := .err _ (.out _ (.err _ .nil))
  obtain ⟨-, hpasses⟩ := hruns plainLibraries dividingDisk ⟨"/p"⟩ { expected := .exact "x\r\ny" }
    dividingScript.program rfl hwrites
  refine ⟨by decide, by decide, ?_⟩
  rw [Ne, hpasses rfl (by decide), not_not]
  decide

end Runner

end BlackBox
