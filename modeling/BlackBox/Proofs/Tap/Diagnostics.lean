import BlackBox.Proofs.Outcome
import BlackBox.Proofs.Tap.Block
import BlackBox.Proofs.Yaml.BlockScalar
import BlackBox.Yaml.Read

/-!
# Diagnostics that are read back

The lines of a diagnostics block between its first and its last one are a document: a mapping with
the message as a literal block scalar. If all characters of a message may stand in a document and
its only line breaks are newlines, the document is read back as the message and a newline
(`read_innerLines`). A message with a character that no document may hold makes it unreadable.
-/

namespace BlackBox

namespace Yaml

variable {s : List Char} {rest : List Char} {limit fuel : ℕ} {c : Char} {text : String}

/-! ## Scanning the document -/

namespace Scan

/-- A token is read at the position after white space. -/
theorem run_token {start next : Scan} (here : Scan)
    (hspace : (start.skipSpace limit).dropStale = some here)
    (hunroll : here.unroll here.cursor.column = here) (hrest : here.cursor.rest = c :: rest)
    (htoken : here.token limit c rest = some next) :
    run limit (fuel + 1) start = run limit fuel next := by
  rw [run, hspace]
  dsimp only
  rw [hunroll, hrest]
  dsimp only
  rw [htoken]

/-- The state after the key of the document. -/
def afterKey (rest : List Char) : Scan where
  cursor := ⟨':' :: ' ' :: rest, 9, 0, 9⟩
  keys := [some ⟨false, 0, 2, 0, 2⟩]
  keyAllowed := false
  tokens := [.scalar "message" true]
  count := 1

/-- The state after the colon behind the key. -/
def afterColon (rest : List Char) : Scan where
  cursor := ⟨' ' :: rest, 10, 0, 10⟩
  indent := 2
  outer := [-1]
  keyAllowed := false
  tokens := [.value, .scalar "message" true, .key, .blockMapping]
  count := 4

/-- The state after the value of the document. -/
def afterValue (text : String) (p : Cursor) : Scan where
  cursor := p
  indent := 2
  outer := [-1]
  tokens := [.scalar text false, .value, .scalar "message" true, .key, .blockMapping]
  count := 5

/-- The key is read as a plain scalar that may be one. -/
theorem run_key (rest : List Char) :
    run (limit + 10) (fuel + 1) { cursor := ⟨"  message: ".toList ++ rest, 0, 0, 0⟩ } =
      run (limit + 10) fuel (afterKey rest) :=
  run_token { cursor := ⟨"message: ".toList ++ rest, 2, 0, 2⟩ } rfl rfl rfl rfl

/-- At the colon the mapping is opened, and the scalar before it is its key. -/
theorem run_colon (rest : List Char) :
    run (limit + 1) (fuel + 1) (afterKey rest) = run (limit + 1) fuel (afterColon rest) :=
  run_token (afterKey rest) rfl rfl rfl rfl

/-- The value is read as a block scalar. -/
theorem run_value (hs : Block.NewlinesOnly s) (hlast : s.getLast? ≠ some '\n') (hne : s ≠ [])
    (hlimit : s.length < limit + 1) : ∃ p, Block.AtEnd p ∧
    run (limit + 1) (fuel + 1) (afterColon ("|2\n".toList ++ (Text.indent 4 s ++ ['\n']))) =
      run (limit + 1) fuel (afterValue (String.ofList (s ++ ['\n'])) p) := by
  let start : Scan := afterColon ("|2\n".toList ++ (Text.indent 4 s ++ ['\n']))
  let here : Scan := start.move (start.cursor.skip 1)
  have hrest : here.cursor.rest = '|' :: '2' :: '\n' :: (Text.indent 4 s ++ ['\n']) := rfl
  obtain ⟨p, hend, hread⟩ := Block.read_indented 2 hs hlast hne hrest hlimit
  refine ⟨p, hend, run_token here rfl rfl hrest ?_⟩
  have htoken : here.token (limit + 1) '|' ('2' :: '\n' :: (Text.indent 4 s ++ ['\n'])) =
      here.blockScalar (limit + 1) false := by
    rw [token]
    rfl
  rw [htoken]
  have hdrop : here.dropKey = some here := rfl
  have hindent : here.indent = ((2 : ℕ) : Int) := rfl
  rw [blockScalar, hdrop, Option.bind_eq_bind, Option.bind_some, hindent, hread]
  rfl

/-- At the end of the text the mapping is closed. -/
theorem run_end {p : Cursor} (hend : Block.AtEnd p) :
    (run (limit + 1) (fuel + 1) (afterValue text p)).map (fun s => s.tokens.reverse) =
      some [.blockMapping, .key, .scalar "message" true, .value, .scalar text false, .blockEnd] := by
  obtain ⟨rest, index, line, column⟩ := p
  obtain ⟨rfl, rfl⟩ : rest = [] ∧ column = 0 := hend
  let last : Scan := afterValue text ⟨[], index, line, 0⟩
  have hmark : (last.cursor.index == 0 && last.cursor.rest.head? == some '\ufeff') = false :=
    Bool.and_false _
  have hspace : last.skipSpace (limit + 1) = last := by
    rw [skipSpace, hmark]
    rfl
  show (run (limit + 1) (fuel + 1) last).map _ = _
  rw [run, hspace]
  rfl

end Scan

/-! ## Reading the document -/

/-- The first line of the document, written out so that no proof has to decode it. -/
def firstLine : List Char :=
  [' ', ' ', 'm', 'e', 's', 's', 'a', 'g', 'e', ':', ' ', '|', '2', '\n']

/-- A document with a text as the value of its only key. -/
def messageDocument (s : List Char) : List Char :=
  firstLine ++ (Text.indent 4 s ++ ['\n'])

/-- A text that a document may hold as it is: all its characters may stand in a document, and its
only line breaks are newlines. -/
def Printable (s : List Char) : Prop :=
  ∀ c ∈ s, admissible c = true ∧ (isBreak c = true → c = '\n')

/-- There is no carriage return in a text that a document may hold as it is. -/
theorem Printable.return_not_mem (h : Printable s) : '\r' ∉ s :=
  fun hmem => absurd ((h _ hmem).2 rfl) (by decide)

/-- The characters around a text in its document may stand there. -/
theorem admissible_messageDocument (h : Printable s) :
    (messageDocument s).all admissible = true := by
  have htext : (Text.indent 4 s).all admissible = true := by
    rw [List.all_eq_true, Text.indent_of_return_not_mem h.return_not_mem]
    intro c hc
    rcases Text.mem_of_mem_pad hc with rfl | hc
    · rfl
    · exact (h c hc).1
  have hfirst : firstLine.all admissible = true := by decide
  rw [messageDocument, List.all_append, List.all_append, htext, hfirst]
  decide

/-- The document is longer than the indented text by its first line and a newline. -/
theorem length_messageDocument (s : List Char) :
    (messageDocument s).length = (Text.indent 4 s).length + 15 := by
  rw [messageDocument, List.length_append, List.length_append, List.length_singleton]
  exact Nat.add_comm _ _

/-- The tokens of a document with a text. -/
theorem tokens?_messageDocument (hs : Printable s) (hlast : s.getLast? ≠ some '\n') (hne : s ≠ []) :
    tokens? (String.ofList (messageDocument s)) =
      some [.blockMapping, .key, .scalar "message" true, .value,
        .scalar (String.ofList (s ++ ['\n'])) false, .blockEnd] := by
  obtain ⟨limit, hlimit, hlength⟩ : ∃ limit, (messageDocument s).length + 2 = limit + 10 ∧
      s.length < limit := by
    have hsub : s.Sublist (Text.indent 4 s) := by
      rw [Text.indent_of_return_not_mem hs.return_not_mem]
      exact Text.sublist_pad 4 s
    refine ⟨(Text.indent 4 s).length + 7, ?_, Nat.lt_add_right 6 (Nat.lt_succ_of_le hsub.length_le)⟩
    rw [length_messageDocument]
  -- Three tokens are read before the value, and the fuel that is left is more than there are lines.
  have hnewlines : Block.NewlinesOnly s := fun c hc => (hs c hc).2
  have hless : s.length < limit + 9 + 1 := Nat.lt_add_right 10 hlength
  obtain ⟨p, hend, hvalue⟩ := Scan.run_value hnewlines hlast hne hless
  rw [tokens?, String.toList_ofList]
  dsimp only
  rw [if_pos (admissible_messageDocument hs), hlimit]
  have hrun : Scan.run (limit + 10) (limit + 10) { cursor := ⟨messageDocument s, 0, 0, 0⟩ } =
      Scan.run (limit + 10) (limit + 7) (Scan.afterValue (String.ofList (s ++ ['\n'])) p) :=
    (Scan.run_key _).trans ((Scan.run_colon _).trans hvalue)
  rw [hrun]
  exact Scan.run_end hend

/-- The tokens are those of a mapping with one entry. -/
theorem ofTokens?_message (text : String) :
    Document.ofTokens? [.blockMapping, .key, .scalar "message" true, .value, .scalar text false,
      .blockEnd] =
    some ⟨.mapping none [(.scalar none "message" true, .scalar none text false)], [], 4⟩ := by
  rfl

/-- The mapping has the text as the value of its key. -/
theorem value?_message (text : String) :
    Document.value? ⟨.mapping none [(.scalar none "message" true, .scalar none text false)], [], 4⟩ =
      some (.mapping [(.string "message", .string text)]) := by
  delta Document.value? Document.compose
  rfl

/-- A document with a text is read back. -/
theorem read_messageDocument (hs : Printable s) (hlast : s.getLast? ≠ some '\n') (hne : s ≠ []) :
    read (String.ofList (messageDocument s)) =
      some (.mapping [(.string "message", .string (String.ofList (s ++ ['\n'])))]) := by
  rw [read, tokens?_messageDocument hs hlast hne]
  simp only [Option.bind_eq_bind, Option.bind_some, List.isEmpty_cons, Bool.false_eq_true, if_false,
    ofTokens?_message, value?_message]

/-- A text with a character that no document may hold is not read at all. -/
theorem read_eq_none_of_not_admissible (hmem : c ∈ text.toList) (hc : admissible c = false) :
    read text = none := by
  have hall : text.toList.all admissible = false := by
    rw [List.all_eq_false]
    exact ⟨c, hmem, by simp [hc]⟩
  have htokens : tokens? text = none := by
    rw [tokens?, hall]
    rfl
  rw [read, htokens]
  rfl

end Yaml

namespace Report.Tap

open Text (ending pad pieces)
open Yaml (Printable admissible messageDocument firstLine)

variable {s first last : List Char} {c : Char} {text : String}

/-! ## The lines inside a block -/

/-- The lines of a text but for the first and the last one. -/
def innerLines (block : String) : String :=
  String.ofList (pieces block.toList).tail.dropLast.flatten

/-- Whole lines between two others are the inner lines. -/
theorem innerLines_eq (hfirst : '\n' ∉ first) (hlast : '\n' ∉ last) (hs : s.getLast? = some '\n')
    (htext : text.toList = first ++ '\n' :: (s ++ (last ++ ['\n']))) :
    innerLines text = String.ofList s := by
  have hends : pieces (last ++ ['\n']) = [last ++ ['\n']] := Text.pieces_line hlast
  rw [innerLines, htext, Text.pieces_line hfirst, List.tail_cons, Text.pieces_append (.inr hs),
    hends, List.dropLast_concat, Text.flatten_pieces]

/-- The inner lines of a diagnostics block: the key of the document, and what remains of the text
with four spaces before each line. -/
theorem innerLines_diagnosticsBlock (h : text ≠ "") : innerLines (diagnosticsBlock text) =
    String.ofList (firstLine ++ pad 4 (remains text.toList)) := by
  have hends : (firstLine ++ pad 4 (remains text.toList)).getLast? = some '\n' := by
    rw [List.getLast?_append, Text.getLast?_pad, getLast?_remains]
    rfl
  have hblock : (diagnosticsBlock text).toList = "  ---".toList ++ '\n' ::
      ((firstLine ++ pad 4 (remains text.toList)) ++ ("  ...".toList ++ ['\n'])) := by
    have hopening : "  ---\n".toList ++ "  message: |2\n".toList =
        "  ---".toList ++ '\n' :: firstLine := by decide
    have hclosing : "  ...\n".toList = "  ...".toList ++ ['\n'] := by decide
    rw [toList_diagnosticsBlock h, hopening, hclosing, List.append_assoc, List.append_assoc,
      List.append_assoc, List.cons_append]
  exact innerLines_eq (by decide) (by decide) hends hblock

/-- A message ends in a character that ends no line. -/
theorem getLast?_message {o : Outcome} (h : o.isSuccess = false) :
    o.message.toList.getLast? = some '*' := by
  have hruler : Outcome.ruler.toList.getLast? = some '*' := by rfl
  obtain ⟨front, hfront⟩ : ∃ front, o.message = front ++ Outcome.ruler := by
    cases o with
    | passed => cases h
    | wrongExitCode expected got output => exact ⟨_, rfl⟩
    | outputMismatch expected output => exact ⟨_, (String.append_assoc).symm⟩
    | patternMismatch pattern output => exact ⟨_, (String.append_assoc).symm⟩
  rw [hfront, String.toList_append, List.getLast?_append, hruler]
  rfl

/-- The block of a message that a document may hold as it is, is read back. -/
theorem read_innerLines_of_printable {o : Outcome} (h : o.isSuccess = false)
    (hprintable : Printable o.message.toList) :
    Yaml.read (innerLines (diagnosticsBlock o.message)) =
      some (.mapping [(.string "message", .string (o.message ++ "\n"))]) := by
  have hlast := getLast?_message h
  have hne : o.message.toList ≠ [] := by
    intro hnil
    rw [hnil] at hlast
    cases hlast
  have hend : o.message.toList.getLast? ≠ some '\n' := by
    rw [hlast]
    decide
  have hending : ending o.message.toList = ['\n'] := if_neg hend
  have hdocument : firstLine ++ pad 4 (remains o.message.toList) =
      messageDocument o.message.toList := by
    rw [remains_of_return_not_mem hprintable.return_not_mem, Text.pad_append_ending hne, hending,
      messageDocument, Text.indent_of_return_not_mem hprintable.return_not_mem]
  have htext : String.ofList (o.message.toList ++ ['\n']) = o.message ++ "\n" := by
    rw [String.ofList_append, String.ofList_toList]
  rw [innerLines_diagnosticsBlock (mt String.toList_eq_nil_iff.mpr hne), hdocument, ← htext]
  exact Yaml.read_messageDocument hprintable hend hne

/-- The block of a message with a character that no document may hold is not read at all. -/
theorem read_innerLines_eq_none {o : Outcome} (h : o.isSuccess = false) (hmem : c ∈ o.message.toList)
    (hc : admissible c = false) : Yaml.read (innerLines (diagnosticsBlock o.message)) = none := by
  have hne : o.message ≠ "" := by
    rintro hempty
    rw [Outcome.message_eq_empty_iff.mp hempty] at h
    cases h
  have hr : c ≠ '\r' := by
    rintro rfl
    exact absurd hc (by decide)
  -- Only carriage returns are lost in a block, and the character is none.
  have hremains : c ∈ remains o.message.toList :=
    Text.mem_normalize (List.mem_append_left _ (Text.mem_normalize hmem hr)) hr
  refine Yaml.read_eq_none_of_not_admissible ?_ hc
  rw [innerLines_diagnosticsBlock hne, String.toList_ofList]
  exact List.mem_append_right _ ((Text.sublist_pad 4 _).subset hremains)

/-- The lines inside the diagnostics block of a message are read back as the message and a newline,
if a document may hold the message as it is; if there is a character in it that no document may
hold, they are not read at all. -/
theorem read_innerLines (o : Outcome) (h : o.isSuccess = false) :
    (Printable o.message.toList →
      Yaml.read (innerLines (diagnosticsBlock o.message)) =
        some (.mapping [(.string "message", .string (o.message ++ "\n"))])) ∧
    ((∃ c ∈ o.message.toList, admissible c = false) →
      Yaml.read (innerLines (diagnosticsBlock o.message)) = none) :=
  ⟨read_innerLines_of_printable h, fun ⟨_, hmem, hc⟩ => read_innerLines_eq_none h hmem hc⟩

/-- It can be decided whether a text is printable. -/
instance : DecidablePred Printable := fun s =>
  List.decidableBAll (fun c => admissible c = true ∧ (Yaml.isBreak c = true → c = '\n')) s

/-- A message with a blank line and with signs that begin something in a document, and one with an
escape sequence of a terminal. -/
theorem read_innerLines_sample :
    (Outcome.outputMismatch "  a" "b: |\n\n\t# c ").isSuccess = false ∧
      Yaml.read (innerLines (diagnosticsBlock
        (Outcome.outputMismatch "  a" "b: |\n\n\t# c ").message)) =
      some (.mapping [(.string "message",
        .string ((Outcome.outputMismatch "  a" "b: |\n\n\t# c ").message ++ "\n"))]) ∧
      Yaml.read (innerLines (diagnosticsBlock (Outcome.outputMismatch "" "\x1b[1m").message)) =
        none := by
  have hmem : '\x1b' ∈ (Outcome.outputMismatch "" "\x1b[1m").message.toList := by decide
  exact ⟨rfl, (read_innerLines (.outputMismatch "  a" "b: |\n\n\t# c ") rfl).1 (by decide +kernel),
    (read_innerLines (.outputMismatch "" "\x1b[1m") rfl).2 ⟨_, hmem, by decide⟩⟩

/-- The block of a message with an escape sequence of a terminal in it is not read back. -/
theorem not_read_innerLines_escape :
    (Outcome.outputMismatch "" "\x1b[0m").isSuccess = false ∧
      Yaml.read (innerLines (diagnosticsBlock (Outcome.outputMismatch "" "\x1b[0m").message)) =
        none := by
  have hmem : '\x1b' ∈ (Outcome.outputMismatch "" "\x1b[0m").message.toList := by decide
  exact ⟨rfl, read_innerLines_eq_none rfl hmem (by decide)⟩

end Report.Tap

end BlackBox
