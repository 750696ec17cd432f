import BlackBox.Text.Blank
import BlackBox.Text.Quoted
import BlackBox.Yaml.Value

/-!
# Test cases

A test case says what to run and what to expect of it. `TestCase.ofEntries` reads one from the
entries of a mapping: five keys are known, each with a default and a rule for its value, and all
others are ignored. The entries are read in document order, and the first one that breaks a rule is
the error.
-/

namespace BlackBox

open Yaml (Value)

/-- What the output of a program is expected to be. -/
inductive Expectation where
  /-- This text and no other. -/
  | exact (text : String)
  /-- Any text in which the pattern is found. -/
  | regex (pattern : String)
  deriving Repr, DecidableEq, Inhabited

/-- The name of a test case that has none. -/
def TestCase.defaultName : String := "No description"

/-- A test case. -/
structure TestCase where
  /-- The name by which it is reported. -/
  name : String := TestCase.defaultName
  /-- The standard input of the program. -/
  source : String := ""
  /-- The arguments of the program, separated by white space. -/
  args : String := ""
  /-- The expected output. -/
  expected : Expectation := .exact ""
  /-- The expected exit code. -/
  exitCode : Int := 0
  deriving Repr, DecidableEq, Inhabited

namespace TestCase

/-- The arguments that the program is given. -/
def arguments (t : TestCase) : List String := Text.splitWords t.args

/-- The name that a value gives to a test case: the text of a scalar without a tag. -/
def nameOf? : Value → Option String
  | .null => some defaultName
  | .bool b => some (if b then "true" else "false")
  | .int n => some (toString n)
  | .float x => some (Number.Layout.document.write x)
  | .string s => some s
  | _ => none

/-- The known keys of a test case. -/
inductive Field where
  /-- The name. -/
  | test
  /-- The standard input. -/
  | source
  /-- The arguments. -/
  | args
  /-- The expected output. -/
  | out
  /-- The expected exit code. -/
  | exitCode
  deriving Repr, DecidableEq

/-- The key of a field. -/
def Field.key : Field → String
  | test => "test"
  | source => "source"
  | args => "args"
  | out => "out"
  | exitCode => "exit_code"

/-- The field with a key. -/
def Field.ofKey? (key : String) : Option Field :=
  [test, source, args, out, exitCode].find? fun f => f.key = key

/-! ## Errors -/

/-- What is wrong with a mapping that is no test case. -/
inductive Malformed where
  /-- A value of one type stands where another is expected. -/
  | wrongType (found : Value) (expected : String)
  /-- The exit code is out of range. -/
  | outOfRange (n : Int)
  /-- A field is given twice. -/
  | duplicate (field : Field)
  /-- The name is not a scalar without a tag. -/
  | name
  /-- The expected output is neither a text nor a mapping with a pattern. -/
  | expectation
  /-- There is a local tag in the expected output. -/
  | taggedExpectation
  deriving Repr

/-- A value without its tags. -/
def untag : Value → Value
  | .tagged _ v => untag v
  | v => v

/-- The type of a value, and the value itself if it is a scalar. -/
def describe (v : Value) : String :=
  match untag v with
  | .null => "unit value"
  | .bool b => s!"boolean `{b}`"
  | .int n => s!"integer `{n}`"
  | .float x => s!"floating point `{Number.Layout.message.write x}`"
  | .string s => s!"string {Text.quoted s}"
  | .sequence _ => "sequence"
  | .mapping _ => "map"
  | .tagged .. => "enum"

/-- The text of an error. -/
def Malformed.message : Malformed → String
  | wrongType found expected => s!"invalid type: {describe found}, expected {expected}"
  | outOfRange n => s!"invalid value: integer `{n}`, expected i32"
  | duplicate f => s!"duplicate field `{f.key}`"
  | name => "expected a scalar test name"
  | expectation => "data did not match any variant of untagged enum Expectation"
  | taggedExpectation => "untagged and internally tagged enums do not support enum input"

/-! ## Values of fields -/

/-- Reads a text. -/
def text? (v : Value) : Except Malformed String :=
  match untag v with
  | .string s => .ok s
  | _ => .error (.wrongType v "a string")

/-- Reads an exit code, which has 32 bits. -/
def exitCode? (v : Value) : Except Malformed Int :=
  match untag v with
  | .int n => if -2147483648 ≤ n ∧ n < 2147483648 then .ok n else .error (.outOfRange n)
  | _ => .error (.wrongType v "i32")

mutual

/-- Whether there is a local tag on a value or anywhere inside it. -/
def hasTag : Value → Bool
  | .tagged .. => true
  | .sequence items => anyTag items
  | .mapping entries => anyEntryTag entries
  | _ => false

/-- Whether there is a local tag in one of some values. -/
def anyTag : List Value → Bool
  | [] => false
  | v :: vs => hasTag v || anyTag vs

/-- Whether there is a local tag in a key or a value of some entries. -/
def anyEntryTag : List (Value × Value) → Bool
  | [] => false
  | (k, v) :: es => hasTag k || hasTag v || anyEntryTag es

end

/-- The key of a pattern, which may also be written as the number of the field. -/
def isRegexKey : Value → Bool
  | .string s => s == "regex"
  | .int n => n == 0
  | _ => false

/-- Whether a value may be a key beside a pattern: a text or a number that could be the number of a
field. -/
def isPatternKey : Value → Bool
  | .string _ => true
  | .int n => 0 ≤ n
  | _ => false

/-- Reads the pattern of a mapping that describes the expected output. -/
def pattern? (entries : List (Value × Value)) : Option String :=
  if entries.all fun e => isPatternKey e.1 then
    match entries.filter fun e => isRegexKey e.1 with
    | [(_, .string pattern)] => some pattern
    | _ => none
  else none

/-- Reads the expected output. -/
def expectation? (v : Value) : Except Malformed Expectation :=
  if hasTag v then .error .taggedExpectation
  else match v with
    | .string s => .ok (.exact s)
    | .mapping entries =>
      match pattern? entries with
      | some pattern => .ok (.regex pattern)
      | none => .error .expectation
    | _ => .error .expectation

/-! ## Reading -/

/-- The fields that have been read. -/
structure Draft where
  /-- The name. -/
  name : Option String := none
  /-- The standard input. -/
  source : Option String := none
  /-- The arguments. -/
  args : Option String := none
  /-- The expected output. -/
  expected : Option Expectation := none
  /-- The expected exit code. -/
  exitCode : Option Int := none

namespace Draft

/-- Whether a field has been read. -/
def has (d : Draft) : Field → Bool
  | .test => d.name.isSome
  | .source => d.source.isSome
  | .args => d.args.isSome
  | .out => d.expected.isSome
  | .exitCode => d.exitCode.isSome

/-- Reads the value of a field. -/
def put (d : Draft) (f : Field) (v : Value) : Except Malformed Draft :=
  match f with
  | .test =>
    match nameOf? v with
    | some name => .ok { d with name }
    | none => .error .name
  | .source => (text? v).map fun s => { d with source := some s }
  | .args => (text? v).map fun s => { d with args := some s }
  | .out => (expectation? v).map fun e => { d with expected := some e }
  | .exitCode => (exitCode? v).map fun n => { d with exitCode := some n }

/-- Reads an entry. Its key has to be a text, of which a tag is no part. -/
def step (d : Draft) (e : Value × Value) : Except Malformed Draft :=
  match untag e.1 with
  | .string key =>
    match Field.ofKey? key with
    | some f => if d.has f then .error (.duplicate f) else d.put f e.2
    | none => .ok d
  | _ => .error (.wrongType e.1 "field identifier")

/-- The test case with the fields that have been read and the defaults of the others. -/
def finish (d : Draft) : TestCase where
  name := d.name.getD defaultName
  source := d.source.getD ""
  args := d.args.getD ""
  expected := d.expected.getD (.exact "")
  exitCode := d.exitCode.getD 0

end Draft

/-- Reads a test case from the entries of a mapping. -/
def ofEntries (entries : List (Value × Value)) : Except Malformed TestCase :=
  (entries.foldlM Draft.step {}).map Draft.finish

end TestCase

end BlackBox
