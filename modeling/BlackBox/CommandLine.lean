import BlackBox.Report.Reporter

/-!
# The command line

What the words of a command line ask for. Options with a value take it from the same word, after an
equals sign, or from the next word, and letters of options may be joined in one word. The value of
an option is looked at when the next option or the end is reached; until then a word that is no
option at all is the graver error.
-/

namespace BlackBox

/-- What a command line asks for. -/
structure Arguments where
  /-- The path of the program to test. -/
  executable : String
  /-- The directory that is searched for test files. -/
  root : String := "tests"
  /-- The text that paths of test files have to contain. -/
  filter : Option String := none
  /-- The format of the report. -/
  format : Report.Format := .summary
  /-- Whether the report is quiet. -/
  quiet : Bool := false
  /-- Whether more is told about the run. -/
  verbose : Bool := false
  deriving Repr, DecidableEq

namespace CommandLine

/-- Why a command line asks for no run. -/
inductive Stop where
  /-- It asks for help. -/
  | help
  /-- The program is not given. -/
  | missing
  /-- There is a word that nothing is known of. -/
  | unknown
  /-- An option is given twice. -/
  | conflict
  /-- A value is missing or empty. -/
  | invalidValue
  /-- A value is not one of those that are possible. -/
  | invalidChoice
  /-- A value is given to an option that has none. -/
  | unneededValue
  deriving Repr, DecidableEq

/-- An option with a value. -/
inductive Valued where
  /-- The program to test. -/
  | executable
  /-- The directory that is searched. -/
  | root
  /-- The format of the report. -/
  | outputFormat
  deriving Repr, DecidableEq

/-- An option without a value. -/
inductive Flag where
  /-- A quiet report. -/
  | quiet
  /-- More about the run. -/
  | verbose
  /-- Help. -/
  | help
  deriving Repr, DecidableEq

/-- What has been read of a command line. -/
structure Draft where
  /-- The program. -/
  executable : Option String := none
  /-- The directory. -/
  root : Option String := none
  /-- The format. -/
  format : Option Report.Format := none
  /-- The text that paths have to contain. -/
  filter : Option String := none
  /-- Whether the report is quiet. -/
  quiet : Bool := false
  /-- Whether more is told about the run. -/
  verbose : Bool := false
  /-- The last option with a value from the next word, and that value once it has been read. -/
  pending : Option (Valued × Option String) := none
  /-- Whether all further words are no options. -/
  plain : Bool := false
  deriving Repr, DecidableEq

namespace Draft

/-- Reads the value of a path. -/
def path? (value : String) : Except Stop String :=
  if value.isEmpty then .error .invalidValue else .ok value

/-- Gives an option its value. -/
def assign (d : Draft) (o : Valued) (value : String) : Except Stop Draft :=
  match o with
  | .executable =>
    if d.executable.isSome then .error .conflict
    else (path? value).map fun p => { d with executable := some p }
  | .root =>
    if d.root.isSome then .error .conflict
    else (path? value).map fun p => { d with root := some p }
  | .outputFormat =>
    if d.format.isSome then .error .conflict
    else match Report.Format.ofName? value with
      | some f => .ok { d with format := some f }
      | none => .error .invalidChoice

/-- Looks at the value of the last option, which must have been read by now. -/
def settle (d : Draft) : Except Stop Draft :=
  match d.pending with
  | none => .ok d
  | some (_, none) => .error .invalidValue
  | some (o, some value) => { d with pending := none }.assign o value

/-- Reads an option with its value. -/
def attach (d : Draft) (o : Valued) (value : String) : Except Stop Draft := do
  (← d.settle).assign o value

/-- Reads an option that takes its value from the next word. -/
def await (d : Draft) (o : Valued) : Except Stop Draft := do
  return { ← d.settle with pending := some (o, none) }

/-- Reads an option without a value. -/
def mark (d : Draft) (f : Flag) : Except Stop Draft := do
  let d ← d.settle
  match f with
  | .quiet => if d.quiet then .error .conflict else .ok { d with quiet := true }
  | .verbose => if d.verbose then .error .conflict else .ok { d with verbose := true }
  | .help => .error .help

/-- Reads a word that is no option, of which there may be one. -/
def positional (d : Draft) (word : String) : Except Stop Draft :=
  if d.filter.isSome then .error .unknown
  else do return { ← d.settle with filter := some word }

/-- The options by their long names. -/
def longNames : List (String × (Valued ⊕ Flag)) := [
  ("executable", .inl .executable), ("root", .inl .root), ("output-format", .inl .outputFormat),
  ("quiet", .inr .quiet), ("verbose", .inr .verbose), ("help", .inr .help)]

/-- Reads an option by its long name, after the two hyphens. -/
def long (d : Draft) (word : List Char) : Except Stop Draft :=
  let name := word.takeWhile (· != '=')
  let value := (word.dropWhile (· != '=')).tail
  let attached := name.length < word.length
  match longNames.lookup (String.ofList name) with
  | some (.inl o) => if attached then d.attach o (String.ofList value) else d.await o
  | some (.inr f) => if attached then .error .unneededValue else d.mark f
  | none => .error .unknown

/-- Reads options by their letters, after the hyphen. The rest of the word is the value of an option
that has one, with an equals sign before it perhaps. -/
def short (d : Draft) : List Char → Except Stop Draft
  | [] => .ok d
  | c :: rest =>
    if c = 'e' then
      if rest.isEmpty then d.await .executable
      else
        let value := if rest.head? = some '=' then rest.tail else rest
        d.attach .executable (String.ofList value)
    else if c = 'q' then do (← d.mark .quiet).short rest
    else if c = 'h' then d.mark .help
    else .error .unknown

/-- Reads a word. -/
def step (d : Draft) (word : String) : Except Stop Draft :=
  if d.plain then d.positional word
  else match word.toList with
    | ['-', '-'] => .ok { d with plain := true }
    | '-' :: '-' :: name => d.long name
    | '-' :: c :: letters => d.short (c :: letters)
    | _ =>
      match d.pending with
      | some (o, none) => .ok { d with pending := some (o, some word) }
      | _ => d.positional word

/-- What has been asked for, at the end. -/
def finish (d : Draft) : Except Stop Arguments := do
  let d ← d.settle
  let some executable := d.executable | .error .missing
  return {
    executable
    root := d.root.getD "tests"
    filter := d.filter
    format := d.format.getD .summary
    quiet := d.quiet
    verbose := d.verbose }

end Draft

/-- Reads the words of a command line. -/
def parse (words : List String) : Except Stop Arguments := do
  (← words.foldlM Draft.step {}).finish

/-- The help that is shown when it is asked for. -/
def helpText : String :=
  "Integration test runner for executables\n\n" ++
  "Usage: raktest [OPTIONS] --executable <EXECUTABLE> [FILTER]\n\n" ++
  "Arguments:\n" ++
  "  [FILTER]  Only run test files whose path contains this string\n\n" ++
  "Options:\n" ++
  "  -e, --executable <EXECUTABLE>        Path to executable to test\n" ++
  "  -q, --quiet                          Print only summary and errors\n" ++
  "      --root <ROOT>                    " ++
  "Directory to search for test files (recursively) [default: tests]\n" ++
  "      --output-format <OUTPUT_FORMAT>  Options: summary, tap [default: summary]\n" ++
  "      --verbose                        Print debug logging to standard error\n" ++
  "  -h, --help                           Print help\n"

/-- What is said about a command line that asks for no run. -/
def Stop.message : Stop → String
  | help => helpText
  | missing => "error: the option --executable is required\n"
  | unknown => "error: there is an unexpected argument\n"
  | conflict => "error: an option is given more than once\n"
  | invalidValue => "error: an option has no value\n"
  | invalidChoice => "error: " ++ Report.Format.invalidMessage ++ "\n"
  | unneededValue => "error: an option has a value that it does not take\n"

end CommandLine

end BlackBox
