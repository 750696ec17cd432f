import BlackBox.Runner
import BlackBox.Summary
import BlackBox.Yaml.Read

/-!
# Test files

A test file is a document with a sequence of mappings, one for each test case, or an empty document.
If a file is anything else there is one verdict on the file itself. Otherwise there is one verdict
for each mapping, and what is wrong with one of them does not affect the others.
-/

namespace BlackBox

open Yaml (Value)

/-- Why a test file has no test cases. -/
inductive LoadError where
  /-- It cannot be read as text. -/
  | unreadable (fault : Fault)
  /-- Its text is no document. -/
  | malformed (text : String)
  /-- The document is no sequence. -/
  | notSequence
  /-- An item of the sequence is no mapping; the number of items before it. -/
  | notMapping (index : Nat)
  deriving Repr, DecidableEq

/-- The text of an error. -/
def LoadError.message (lib : Libraries) : LoadError → String
  | unreadable fault => fault.message
  | malformed text => lib.documentError text
  | notSequence => "expected a list of test cases at the top level"
  | notMapping index => s!"test case at index {index} is not a mapping"

namespace TestFile

/-- The entries of one test case. -/
abbrev Entries := List (Value × Value)

/-- The mappings among items of which the first one has a given index. The first item that is no
mapping is an error. -/
def mappings : Nat → List Value → Except LoadError (List Entries)
  | _, [] => .ok []
  | i, .mapping entries :: items => (mappings (i + 1) items).map (entries :: ·)
  | i, _ :: _ => .error (.notMapping i)

/-- The test cases of a document, not yet read. -/
def ofValue : Value → Except LoadError (List Entries)
  | .null => .ok []
  | .sequence items => mappings 0 items
  | _ => .error .notSequence

/-- The test cases of a text, not yet read. -/
def ofText (text : String) : Except LoadError (List Entries) :=
  match Yaml.read text with
  | none => .error (.malformed text)
  | some v => ofValue v

/-- The test cases of a file, not yet read. -/
def load (d : Disk) (path : String) : Except LoadError (List Entries) :=
  match d.readText path with
  | .error fault => .error (.unreadable fault)
  | .ok text => ofText text

/-- What is told about a file whose test cases have been loaded. -/
def records (d : Disk) (path : String) (cases : List Entries) : List Log.Record :=
  let empty := ((d.readText path).toOption.bind Yaml.read).any fun v =>
    match v with
    | .null => true
    | _ => false
  (if empty then [⟨.warn, "test file '" ++ path ++ "' is empty"⟩] else []) ++
    [⟨.debug, s!"loaded {cases.length} test cases from '{path}'"⟩]

/-! ## Verdicts -/

/-- The name by which a test case is reported, before it is read: that of the value of its key. -/
def nameOf (entries : Entries) : String :=
  ((Value.lookup TestCase.Field.test.key entries).bind TestCase.nameOf?).getD TestCase.defaultName

/-- The verdict on a test case of a file. -/
def runEntry (lib : Libraries) (d : Disk) (env : Environment) (file : String)
    (entries : Entries) : Verdict :=
  let testId := file ++ " -> " ++ nameOf entries
  match TestCase.ofEntries entries with
  | .error e => .fail testId ("Invalid test case: " ++ e.message)
  | .ok t =>
    match Runner.run lib d env t with
    | .error f => .fail testId ("Failed to run test: " ++ f.message lib)
    | .ok o => .ofOutcome testId o

/-- The verdicts on a test file. -/
def run (lib : Libraries) (d : Disk) (env : Environment) (path : String) : List Verdict :=
  let file := Path.display d.current path
  match load d path with
  | .ok cases => cases.map (runEntry lib d env file)
  | .error e => [.fail file ("Error reading " ++ file ++ ": " ++ e.message lib)]

/-- The verdicts on test files, as they are reported, and their summary. -/
def runAll (lib : Libraries) (d : Disk) (env : Environment) (paths : List String) :
    List Verdict × Summary :=
  paths.foldl
    (fun (reported, summary) path =>
      let verdicts := run lib d env path
      (reported ++ verdicts, summary.merge (.collect verdicts)))
    ([], {})

end TestFile

end BlackBox
