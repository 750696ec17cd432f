import BlackBox.Proofs.Tap.Points
import BlackBox.Proofs.Text.LineEnds

/-!
# The lines of a diagnostics block

A diagnostics block is made by indenting a text, putting lines around it and indenting all of that.
Both times a carriage return may be lost at the end of a line, and in between the text may get a
newline. What comes of it is a line that opens the block, one with the key of the text and one that
closes the block, and before the last of them one line for each line of the text, with four spaces
in front (`diagnosticsBlock_encloses`). So a text is recovered from its block by taking those away,
but for carriage returns at the ends of its lines.
-/

namespace BlackBox.Report.Tap

open Text (indent normalize pad pieces spaces ending Shortened)

variable {text : String} {s p : List Char}

/-! ## What remains of a text -/

/-- What remains of a text in its block: it is normalised, gets the newline that it lacks at its
end, and is normalised again. -/
def remains (s : List Char) : List Char := normalize (normalize s ++ ending s)

/-- A text that is normalised and has got the newline that it lacks ends in a newline. -/
theorem getLast?_normalize_append_ending (s : List Char) :
    (normalize s ++ ending s).getLast? = some '\n' := by
  -- What is lacking does not depend on whether the text is normalised.
  rw [← Text.ending_normalize]
  exact Text.getLast?_append_ending _

/-- What remains of a text ends in a newline. -/
theorem getLast?_remains (s : List Char) : (remains s).getLast? = some '\n' := by
  rw [remains, Text.getLast?_normalize, getLast?_normalize_append_ending]

/-- There are as many lines in what remains of a text as in the text. -/
theorem count_remains (s : List Char) : (remains s).count '\n' = (s ++ ending s).count '\n' := by
  rw [remains, Text.count_normalize, List.count_append, Text.count_normalize, List.count_append]

/-- A text without carriage returns remains as it is, with the newline that it lacks. -/
theorem remains_of_return_not_mem (h : '\r' ∉ s) : remains s = s ++ ending s := by
  have hended : '\r' ∉ s ++ ending s := by
    rw [List.mem_append, not_or, ending]
    refine ⟨h, ?_⟩
    split_ifs
    · exact List.not_mem_nil
    · decide
  rw [remains, Text.normalize_of_return_not_mem h, Text.normalize_of_return_not_mem hended]

/-- Of each line of a text only carriage returns before its newline are lost. -/
theorem shortened_remains (s : List Char) :
    List.Forall₂ Shortened (pieces (s ++ ending s)) (pieces (remains s)) := by
  rw [remains, Text.pieces_normalize, List.forall₂_map_right_iff]
  exact (Text.shortened_pieces s).imp fun _ _ h => h.normalize

/-! ## The block of a text -/

/-- A text that is indented and then gets the newline that it lacks. -/
theorem indent_append_ending (h : s ≠ []) :
    indent 2 s ++ ending s = pad 2 (normalize s ++ ending s) := by
  have hne : normalize s ≠ [] := mt Text.normalize_eq_nil_iff.mp h
  calc indent 2 s ++ ending s
    _ = pad 2 (normalize s) ++ ending (normalize s) := by
      rw [Text.indent_eq_pad, Text.ending_normalize]
    _ = pad 2 (normalize s ++ ending (normalize s)) := (Text.pad_append_ending hne).symm
    _ = pad 2 (normalize s ++ ending s) := by rw [Text.ending_normalize]

/-- The lines around a text are indented apart from it. -/
theorem indent_between {first last : List Char} (hfirst : first.getLast? = some '\n')
    (hs : s.getLast? = some '\n') :
    indent 2 (first ++ (pad 2 s ++ last)) = indent 2 first ++ (pad 4 (normalize s) ++ indent 2 last) := by
  -- Every seam comes after a newline, before normalising and after it.
  have hpadded : (pad 2 s).getLast? = some '\n' := (Text.getLast?_pad 2 s).trans hs
  have hnormal : (normalize first).getLast? = some '\n' := by rw [Text.getLast?_normalize, hfirst]
  have hinner : (pad 2 (normalize s)).getLast? = some '\n' := by
    rw [← Text.normalize_pad, Text.getLast?_normalize, hpadded]
  calc indent 2 (first ++ (pad 2 s ++ last))
    _ = pad 2 (normalize (first ++ (pad 2 s ++ last))) := Text.indent_eq_pad 2 _
    _ = pad 2 (normalize first ++ (pad 2 (normalize s) ++ normalize last)) := by
      rw [Text.normalize_append_of_newline hfirst, Text.normalize_append_of_newline hpadded,
        Text.normalize_pad]
    _ = pad 2 (normalize first) ++ (pad 4 (normalize s) ++ pad 2 (normalize last)) := by
      rw [Text.pad_append hnormal, Text.pad_append hinner, Text.pad_pad]
    _ = indent 2 first ++ (pad 4 (normalize s) ++ indent 2 last) := by
      rw [Text.indent_eq_pad, Text.indent_eq_pad]

/-- A diagnostics block is the indented text, between lines of its own, indented again. -/
theorem toList_diagnosticsBlock_eq_indent (text : String) : (diagnosticsBlock text).toList =
    indent 2 ("---\nmessage: |2\n".toList ++
      (indent 2 text.toList ++ ending text.toList ++ "...\n".toList)) := by
  have hending : (if text.toList.getLast? = some '\n' then "" else "\n").toList =
      ending text.toList := by
    rw [ending]
    split_ifs
    · rfl
    · rfl
  have hplain : ("---\nmessage: |2\n" ++ Text.indentLines 2 text ++
      (if text.toList.getLast? = some '\n' then "" else "\n") ++ "...\n").toList =
        "---\nmessage: |2\n".toList ++
          (indent 2 text.toList ++ ending text.toList ++ "...\n".toList) := by
    rw [String.toList_append, String.toList_append, String.toList_append, hending,
      Text.toList_indentLines, List.append_assoc, List.append_assoc, List.append_assoc]
  rw [diagnosticsBlock, Text.toList_indentLines, hplain]

/-- A diagnostics block is what remains of its text, with four spaces before each line, between the
lines around it. -/
theorem toList_diagnosticsBlock (h : text ≠ "") : (diagnosticsBlock text).toList =
    "  ---\n".toList ++ "  message: |2\n".toList ++ pad 4 (remains text.toList) ++
      "  ...\n".toList := by
  have hne : text.toList ≠ [] := mt String.toList_eq_nil_iff.mp h
  have hopening : indent 2 "---\nmessage: |2\n".toList =
      "  ---\n".toList ++ "  message: |2\n".toList := by decide
  have hclosing : indent 2 "...\n".toList = "  ...\n".toList := by decide
  have hwhole := getLast?_normalize_append_ending text.toList
  rw [toList_diagnosticsBlock_eq_indent, indent_append_ending hne, indent_between rfl hwhole,
    hopening, hclosing, ← remains, List.append_assoc _ (pad 4 _)]

/-! ## The lines of a block -/

/-- A block holds a text in some of its lines. -/
structure Encloses (block text : List Char) (content : List (List Char)) : Prop where
  /-- The block is made of these lines, two lines before them and one after them. -/
  block_eq : block = "  ---\n".toList ++ "  message: |2\n".toList ++ content.flatten ++
    "  ...\n".toList
  /-- Each of them is a line with its newline that begins with four spaces. -/
  line : ∀ p ∈ content, ∃ line, '\n' ∉ line ∧ p = List.replicate 4 ' ' ++ line ++ ['\n']
  /-- There is one for each line of the text. -/
  length : content.length = (text ++ ending text).count '\n'
  /-- None of them looks like the last line of a block or like a line of the protocol. -/
  silent : ∀ p ∈ content, p ≠ "  ...\n".toList ∧ isPoint p = false ∧ isPlan p = false
  /-- Without their spaces they are the text, normalised, ended by a newline and normalised again.
  -/
  remains_eq : (content.map (List.drop 4)).flatten = normalize (normalize text ++ ending text)
  /-- They are the text itself, ended by a newline, if there are no carriage returns in it. -/
  whole : '\r' ∉ text → (content.map (List.drop 4)).flatten = text ++ ending text
  /-- Only carriage returns before newlines are lost of the lines of the text. -/
  lost : List.Forall₂ Shortened (pieces (text ++ ending text)) (content.map (List.drop 4))

/-- A line that begins with four spaces is not the last line of a block. -/
theorem ne_closing {line : List Char} (h : p = List.replicate 4 ' ' ++ line) :
    p ≠ "  ...\n".toList := by
  rw [h]
  intro heq
  have hthird : some ' ' = some '.' := congrArg (fun l : List Char => l[2]?) heq
  exact absurd hthird (by decide)

/-- The diagnostics block of a text that is not empty consists of a line that opens it, one with a
key, one for each line of the text and one that closes it. The lines of the text begin with four
spaces, so that none of them looks like the end of the block or like a line of the protocol, and
without the spaces they are the text but for carriage returns at the ends of lines. -/
theorem diagnosticsBlock_encloses (text : String) (h : text ≠ "") :
    ∃ content, Encloses (diagnosticsBlock text).toList text.toList content := by
  have hends := getLast?_remains text.toList
  have hdrop : ((pieces (remains text.toList)).map (spaces 4 ++ ·)).map (List.drop 4) =
      pieces (remains text.toList) := by
    rw [List.map_map]
    exact List.map_id _
  have hflatten := Text.flatten_pieces (remains text.toList)
  -- The text that remains ends in a newline, so that each of its pieces is a whole line.
  have hline : ∀ p ∈ (pieces (remains text.toList)).map (spaces 4 ++ ·),
      ∃ line, '\n' ∉ line ∧ p = List.replicate 4 ' ' ++ line ++ ['\n'] := by
    intro p hp
    obtain ⟨q, hq, rfl⟩ := List.mem_map.mp hp
    obtain ⟨line, hline, rfl⟩ := Text.exists_line_of_mem_pieces hends hq
    exact ⟨line, hline, (List.append_assoc _ _ _).symm⟩
  refine ⟨(pieces (remains text.toList)).map (spaces 4 ++ ·), ?_, hline, ?_, ?_, ?_, ?_, ?_⟩
  · exact toList_diagnosticsBlock h
  · rw [List.length_map, Text.length_pieces hends, count_remains]
  · intro p hp
    obtain ⟨line, -, rfl⟩ := hline p hp
    have hspaces : spaces 2 <+: List.replicate 4 ' ' ++ line ++ ['\n'] :=
      ⟨List.replicate 2 ' ' ++ line ++ ['\n'], rfl⟩
    exact ⟨ne_closing (List.append_assoc _ _ _), not_signal_of_spaces hspaces⟩
  · rw [hdrop, hflatten, remains]
  · intro hreturn
    rw [hdrop, hflatten, remains_of_return_not_mem hreturn]
  · rw [hdrop]
    exact shortened_remains text.toList

/-- A text with a blank line, a line of points and stacked carriage returns, the last of them at its
end: of the four lines in its block the third has lost two carriage returns and the last one has
lost one. -/
theorem diagnosticsBlock_encloses_sample :
    "...\n\na\r\r\r\nb\r\r" ≠ "" ∧ ∃ content,
      Encloses (diagnosticsBlock "...\n\na\r\r\r\nb\r\r").toList "...\n\na\r\r\r\nb\r\r".toList
        content ∧
      content.length = 4 ∧ (content.map (List.drop 4)).flatten = "...\n\na\r\nb\r\n".toList := by
  have hne : "...\n\na\r\r\r\nb\r\r" ≠ "" := by decide
  obtain ⟨content, hcontent⟩ := diagnosticsBlock_encloses "...\n\na\r\r\r\nb\r\r" hne
  refine ⟨hne, content, hcontent, ?_, ?_⟩
  · rw [hcontent.length]
    decide
  · rw [hcontent.remains_eq]
    decide

end BlackBox.Report.Tap
