import BlackBox.Proofs.Report
import BlackBox.Proofs.TestFiles

/-!
# Loading test files

What is loaded from a test file is told by a relation, `Loads`: a text that is no document, a
document that is no sequence and an item that is no mapping each are an error of the whole file, and
otherwise the mappings are its test cases. `load` gives what the relation tells (`loads_load`).

An error of the file is the only verdict on it. Without one there is a verdict for each test case,
in their order, and nothing but the test case itself, the path and the program has a part in it
(`run_isolates_entries`).
-/

namespace BlackBox.TestFile

open Yaml (Value)

variable {lib : Libraries} {d d' : Disk} {env : Environment} {path text : String}
  {tests : List Entries}
  {item v : Value} {items rest : List Value}

/-! ## Texts of files -/

/-- There is a file at a path, and its bytes are the encoding of a text. -/
def Holds (d : Disk) (path text : String) : Prop :=
  ∃ f, d.file? path = some f ∧ f.content = text.toUTF8

/-- A text is read from a file exactly if the file holds it. -/
theorem readText_eq_ok_iff : d.readText path = .ok text ↔ Holds d path text := by
  rw [Disk.readText, Holds, Disk.file?]
  cases d.resolve path with
  | error e => simp
  | ok stop =>
    cases stop with
    | file f =>
      have hfile : (∃ g, some f = some g ∧ g.content = text.toUTF8) ↔ f.content = text.toUTF8 := by
        simp only [Option.some.injEq, exists_eq_left']
      dsimp only
      rw [hfile, ← Runner.fromUTF8?_eq_some_iff]
      cases String.fromUTF8? f.content with
      | none => simp
      | some text' => simp
    | folder here around => simp
    | link target here around rest => simp

/-! ## Documents of test cases -/

/-- What is loaded from a file. -/
inductive Loads (d : Disk) (path : String) : Except LoadError (List Entries) → Prop
  /-- There is no file, or it holds no text; the fault of reading it is the error. -/
  | unreadable (fault : Fault) : (∀ text, ¬Holds d path text) → d.readText path = .error fault →
    Loads d path (.error (.unreadable fault))
  /-- The text is no document. -/
  | malformed (text : String) : Holds d path text → Yaml.read text = none →
    Loads d path (.error (.malformed text))
  /-- The document is empty, and so there are no test cases. -/
  | empty (text : String) : Holds d path text → Yaml.read text = some .null → Loads d path (.ok [])
  /-- The document is neither empty nor a sequence. A sequence under a tag is none. -/
  | notSequence (text : String) (v : Value) : Holds d path text → Yaml.read text = some v →
    v ≠ .null → (∀ items, v ≠ .sequence items) → Loads d path (.error .notSequence)
  /-- After some mappings there is an item that is none. A mapping under a tag is none. -/
  | notMapping (text : String) (tests : List Entries) (item : Value) (rest : List Value) :
    Holds d path text → Yaml.read text = some (.sequence (tests.map .mapping ++ item :: rest)) →
    (∀ entries, item ≠ .mapping entries) → Loads d path (.error (.notMapping tests.length))
  /-- Every item is a mapping. -/
  | mappings (text : String) (tests : List Entries) : Holds d path text →
    Yaml.read text = some (.sequence (tests.map .mapping)) → Loads d path (.ok tests)

/-- Mappings alone are the test cases of a document. -/
theorem mappings_map (i : ℕ) (tests : List Entries) :
    mappings i (tests.map .mapping) = .ok tests := by
  induction tests generalizing i with
  | nil => rfl
  | cons entries tests ih => rw [List.map_cons, mappings, ih, Except.map]

/-- An item after some mappings that is none itself is an error with its index. -/
theorem mappings_append (i : ℕ) (tests : List Entries) (rest : List Value)
    (hitem : ∀ entries, item ≠ .mapping entries) :
    mappings i (tests.map .mapping ++ item :: rest) = .error (.notMapping (i + tests.length)) := by
  induction tests generalizing i with
  | nil =>
    cases item with
    | mapping entries => exact absurd rfl (hitem entries)
    | _ => rfl
  | cons entries tests ih =>
    rw [List.map_cons, List.cons_append, mappings, ih, Except.map, List.length_cons,
      Nat.add_right_comm, Nat.add_assoc]

/-- Items are mappings only, or there is a first one that is none. -/
theorem exists_mappings (items : List Value) :
    (∃ tests : List Entries, items = tests.map .mapping) ∨
      ∃ (tests : List Entries) (item : Value) (rest : List Value),
        items = tests.map .mapping ++ item :: rest ∧
        ∀ entries, item ≠ .mapping entries := by
  induction items with
  | nil => exact .inl ⟨[], rfl⟩
  | cons first items ih =>
    by_cases hfirst : ∃ entries, first = .mapping entries
    · obtain ⟨entries, rfl⟩ := hfirst
      rcases ih with ⟨tests, rfl⟩ | ⟨tests, item, rest, rfl, hitem⟩
      · exact .inl ⟨entries :: tests, rfl⟩
      · exact .inr ⟨entries :: tests, item, rest, rfl, hitem⟩
    · exact .inr ⟨[], first, items, rfl, not_exists.mp hfirst⟩

/-- A file with a text has the test cases of the text. -/
theorem load_of_holds (h : Holds d path text) : load d path = ofText text := by
  rw [load, readText_eq_ok_iff.mpr h]

/-- What the relation tells is what is loaded. -/
theorem Loads.load_eq {r : Except LoadError (List Entries)} (h : Loads d path r) :
    load d path = r := by
  cases h with
  | unreadable fault _ hfault => rw [load, hfault]
  | malformed text htext hread => rw [load_of_holds htext, ofText, hread]
  | empty text htext hread =>
    rw [load_of_holds htext, ofText, hread]
    rfl
  | notSequence text v htext hread hnull hsequence =>
    rw [load_of_holds htext, ofText, hread]
    cases v with
    | null => exact absurd rfl hnull
    | sequence items => exact absurd rfl (hsequence items)
    | _ => rfl
  | notMapping text tests item rest htext hread hitem =>
    rw [load_of_holds htext, ofText, hread]
    exact (mappings_append 0 tests rest hitem).trans (by rw [Nat.zero_add])
  | mappings text tests htext hread =>
    rw [load_of_holds htext, ofText, hread]
    exact mappings_map 0 tests

/-- What is loaded is what the relation tells. -/
theorem loads_load (d : Disk) (path : String) : Loads d path (load d path) := by
  cases htext : d.readText path with
  | error fault =>
    have hno : ∀ text, ¬Holds d path text := by
      intro text hholds
      rw [readText_eq_ok_iff.mpr hholds] at htext
      contradiction
    have htold := Loads.unreadable fault hno htext
    rwa [← htold.load_eq] at htold
  | ok text =>
    have hholds : Holds d path text := readText_eq_ok_iff.mp htext
    -- In each case it is enough to have told something: it is what is loaded.
    suffices htold : ∃ r, Loads d path r by
      obtain ⟨r, hr⟩ := htold
      rwa [← hr.load_eq] at hr
    cases hread : Yaml.read text with
    | none => exact ⟨_, .malformed text hholds hread⟩
    | some v =>
      by_cases hnull : v = .null
      · exact ⟨_, .empty text hholds (hnull ▸ hread)⟩
      · by_cases hsequence : ∃ items, v = .sequence items
        · obtain ⟨items, rfl⟩ := hsequence
          rcases exists_mappings items with ⟨tests, rfl⟩ | ⟨tests, item, rest, rfl, hitem⟩
          · exact ⟨_, .mappings text tests hholds hread⟩
          · exact ⟨_, .notMapping text tests item rest hholds hread hitem⟩
        · exact ⟨_, .notSequence text v hholds hread hnull (not_exists.mp hsequence)⟩

/-! ## Verdicts on files -/

/-- A file that cannot be loaded gets one failed verdict, with its path as the name. -/
theorem run_of_error {e : LoadError} (h : Loads d path (.error e)) :
    run lib d env path = [.fail (Path.display d.current path)
      ("Error reading " ++ Path.display d.current path ++ ": " ++ e.message lib)] := by
  rw [run, h.load_eq]

/-- A file that can be loaded gets a verdict for each test case. -/
theorem run_of_mappings (h : Loads d path (.ok tests)) :
    run lib d env path = tests.map (runEntry lib d env (Path.display d.current path)) := by
  rw [run, h.load_eq]

/-- One thing is loaded from a file. If it is an error, the file gets one failed verdict, with its
path as the name and the error in its message; for an item that is no mapping this is the index of
the first one. If it is test cases, each of them gets a verdict at its place, which is the same on
another disk with the same program whatever the other test cases are there. Every verdict has a
message exactly if the test has failed, so that every failed one is printed with a block of
diagnostics. -/
theorem run_isolates_entries (lib : Libraries) (d : Disk) (env : Environment) (path : String) :
    let file := Path.display d.current path
    (∃! r, Loads d path r) ∧
    (∀ e, Loads d path (.error e) →
      run lib d env path = [.fail file ("Error reading " ++ file ++ ": " ++ e.message lib)]) ∧
    (∀ i, Loads d path (.error (.notMapping i)) →
      run lib d env path = [.fail file
        ("Error reading " ++ file ++ ": " ++ s!"test case at index {i} is not a mapping")]) ∧
    (∀ tests : List Entries, Loads d path (.ok tests) → (run lib d env path).length = tests.length ∧
      ∀ (i : ℕ) (entries : Entries), tests[i]? = some entries →
        (run lib d env path)[i]? = some (runEntry lib d env file entries)) ∧
    (∀ d' : Disk, d'.current = d.current →
      (∀ args, d'.program? env.executable args = d.program? env.executable args) →
      ∀ tests tests' : List Entries, Loads d path (.ok tests) → Loads d' path (.ok tests') →
      ∀ i : ℕ, tests'[i]? = tests[i]? → (run lib d' env path)[i]? = (run lib d env path)[i]?) ∧
    ∀ v ∈ run lib d env path, (v.passed = true ↔ v.message = "") ∧
      ∀ (style : Report.Style) (number : ℕ), style.format = .tap →
        Report.verdict style number v = if v.passed then s!"ok {number} - {v.testId}\n"
          else s!"not ok {number} - {v.testId}\n" ++ Report.Tap.diagnosticsBlock v.message := by
  intro file
  refine ⟨⟨load d path, loads_load d path, fun r hr => hr.load_eq.symm⟩,
    fun e he => run_of_error he,
    fun i hi => run_of_error hi, fun tests htests => ?_,
    fun d' hcurrent hprogram tests tests' h h' i hi => ?_, fun v hv => ?_⟩
  · rw [run_of_mappings htests]
    refine ⟨List.length_map _, fun i entries hi => ?_⟩
    rw [List.getElem?_map, hi, Option.map_some]
  · -- The verdict on an entry is a function of it that both disks have in common.
    have hentry : runEntry lib d' env = runEntry lib d env := runEntry_congr hprogram
    rw [run_of_mappings h, run_of_mappings h', hentry, hcurrent, List.getElem?_map,
      List.getElem?_map, hi]
  · have hexplained : v.Explained := run_explained lib d env path v hv
    exact ⟨hexplained, fun style number htap => Report.verdict_tap htap number hexplained⟩

/-- A text is read in three stages. -/
theorem read_of_stages {tokens : List Yaml.Token} {document : Yaml.Document}
    (htokens : Yaml.tokens? text = some tokens) (hne : tokens.isEmpty = false)
    (hdocument : Yaml.Document.ofTokens? tokens = some document)
    (hvalue : document.value? = some v) : Yaml.read text = some v := by
  rw [Yaml.read, htokens]
  simp only [Option.bind_eq_bind, Option.bind_some, hne, Bool.false_eq_true, if_false, hdocument,
    hvalue]

/-- A document with two items, of which the second one is a sequence. -/
theorem read_items : Yaml.read "- {}\n- []" = some (.sequence [.mapping [], .sequence []]) := by
  have htokens : Yaml.tokens? "- {}\n- []" = some [.blockSequence, .item, .flowMapping,
      .flowMappingEnd, .item, .flowSequence, .flowSequenceEnd, .blockEnd] := by
    decide +kernel
  refine read_of_stages htokens rfl rfl ?_
  delta Yaml.Document.value? Yaml.Document.compose
  rfl

/-- The second item of this document is no mapping. -/
theorem loads_items (h : Holds d path "- {}\n- []") : Loads d path (.error (.notMapping 1)) :=
  .notMapping _ [[]] (.sequence []) [] h read_items nofun

/-- A document with two items, of which the second one is a mapping with a key that is no text. -/
theorem read_mappings : Yaml.read "- {}\n- {[]: {}}" =
    some (.sequence [.mapping [], .mapping [(.sequence [], .mapping [])]]) := by
  have htokens : Yaml.tokens? "- {}\n- {[]: {}}" = some [.blockSequence, .item, .flowMapping,
      .flowMappingEnd, .item, .flowMapping, .key, .flowSequence, .flowSequenceEnd, .value,
      .flowMapping, .flowMappingEnd, .flowMappingEnd, .blockEnd] := by
    decide +kernel
  refine read_of_stages htokens rfl rfl ?_
  delta Yaml.Document.value? Yaml.Document.compose
  rfl

/-- A document with one item. -/
theorem read_mapping : Yaml.read "- {}" = some (.sequence [.mapping []]) := by
  have htokens : Yaml.tokens? "- {}" = some [.blockSequence, .item, .flowMapping, .flowMappingEnd,
      .blockEnd] := by
    decide +kernel
  refine read_of_stages htokens rfl rfl ?_
  delta Yaml.Document.value? Yaml.Document.compose
  rfl

/-- A test case before an item that is no mapping has no verdict, but it has one before an invalid
test case, and the same as without it. -/
theorem run_isolates_entries_items :
    run plainLibraries (diskWith "- {}\n- []") ⟨"/p"⟩ "/b.yaml" = [.fail "b.yaml"
      "Error reading b.yaml: test case at index 1 is not a mapping"] ∧
    (run plainLibraries (diskWith "- {}\n- {[]: {}}") ⟨"/p"⟩ "/b.yaml")[0]? =
      (run plainLibraries (diskWith "- {}") ⟨"/p"⟩ "/b.yaml")[0]? := by
  have hitems : Holds (diskWith "- {}\n- []") "/b.yaml" "- {}\n- []" := ⟨_, rfl, rfl⟩
  have hmapping : Holds (diskWith "- {}") "/b.yaml" "- {}" := ⟨_, rfl, rfl⟩
  have hmappings : Holds (diskWith "- {}\n- {[]: {}}") "/b.yaml" "- {}\n- {[]: {}}" := ⟨_, rfl, rfl⟩
  have hfile : Path.display "/" "/b.yaml" = "b.yaml" := by decide
  constructor
  · obtain ⟨-, -, hindex, -⟩ :=
      run_isolates_entries plainLibraries (diskWith "- {}\n- []") ⟨"/p"⟩ "/b.yaml"
    have hrun := hindex 1 (loads_items hitems)
    rw [show (diskWith "- {}\n- []").current = "/" from rfl, hfile] at hrun
    exact hrun
  · obtain ⟨-, -, -, -, hsame, -⟩ :=
      run_isolates_entries plainLibraries (diskWith "- {}") ⟨"/p"⟩ "/b.yaml"
    have hprogram : ∀ args, (diskWith "- {}\n- {[]: {}}").program? "/p" args =
        (diskWith "- {}").program? "/p" args := by
      intro args
      rw [Disk.program?, Disk.program?]
      rfl
    exact hsame (diskWith "- {}\n- {[]: {}}") rfl hprogram [[]] [[], [(.sequence [], .mapping [])]]
      (.mappings _ _ hmapping read_mapping) (.mappings _ _ hmappings read_mappings) 0 rfl

end BlackBox.TestFile
