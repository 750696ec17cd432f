import BlackBox.Files.Directory
import BlackBox.Libraries
import BlackBox.Log
import BlackBox.Outcome
import BlackBox.Pattern.Parse
import BlackBox.TestCase
import BlackBox.Text.Lines

/-!
# Running a test case

`run` starts the program of an environment with the arguments and the input of a test case and
compares what it does with what is expected: first both streams have to be text, then the exit code
has to be right, and then the output, which is what is on the standard output followed by what is on
the standard error, with line ends normalised in each.
-/

namespace BlackBox

/-- What test cases are run with. -/
structure Environment where
  /-- The path of the program, from the root of the file system. -/
  executable : String
  deriving Repr, DecidableEq

namespace Environment

/-- The environment for a program, if there is a file at its path. A relative path is resolved by
the current directory, with a record of the result. -/
def resolve? (d : Disk) (executable : String) : Option (Environment × List Log.Record) :=
  match d.file? executable with
  | none => none
  | some _ =>
    if Path.isAbsolute executable then some (⟨executable⟩, [])
    else
      let path := Path.join d.current executable
      some (⟨path⟩, [⟨.debug, "resolved executable to '" ++ path ++ "'"⟩])

/-- What is said when there is no program. -/
def notFoundMessage (executable : String) : String :=
  "Executable file '" ++ executable ++ "' does not exist"

end Environment

/-! ## Starting programs -/

namespace Disk

/-- The path of the interpreter that the first line of a file names, if it names one. -/
def interpreter? (content : ByteArray) : Option String :=
  match (Text.decodeLossy content).toList with
  | '#' :: '!' :: rest =>
    let line := rest.takeWhile (· != '\n')
    let path := (line.dropWhile (fun c => c == ' ' || c == '\t')).takeWhile
      fun c => c != ' ' && c != '\t'
    if path.isEmpty then none else some (String.ofList path)
  | _ => none

/-- The fault of starting a file that may be run but is no program. -/
def notProgramFault (d : Disk) (content : ByteArray) : Fault :=
  match interpreter? content with
  | none => .notProgram
  | some path =>
    match d.resolve path with
    | .error e => e
    | .ok (.file f) => if f.executable then .notProgram else .denied
    | .ok _ => .denied

/-- The program at a path, to be started with some arguments. -/
def program? (d : Disk) (path : String) (args : List String) : Except Fault Program :=
  if args.any fun a => a.toList.contains '\x00' then .error .nulInArgument
  else match d.resolve path with
    | .error e => .error e
    | .ok (.file f) =>
      if !f.executable then .error .denied
      else match f.program with
        | some p => .ok p
        | none => .error (d.notProgramFault f.content)
    | .ok _ => .error .denied

end Disk

/-! ## Failures -/

/-- Why a test case has no outcome. -/
inductive Failure where
  /-- The program cannot be started. -/
  | launch (program : String) (fault : Fault)
  /-- What is written to a stream is not text. -/
  | notText (stream : Stream)
  /-- The expected pattern cannot be looked for. -/
  | badPattern (pattern : String)
  deriving Repr, DecidableEq

/-- The name of a stream. -/
def Stream.name : Stream → String
  | out => "standard output"
  | err => "standard error"

/-- What is reported of a failure. -/
def Failure.message (lib : Libraries) : Failure → String
  | launch program fault => "failed to launch '" ++ program ++ "': " ++ fault.message
  | notText stream => stream.name ++ " is not valid UTF-8"
  | badPattern pattern => "invalid regex: " ++ lib.patternError pattern

/-! ## Running -/

namespace Runner

/-- Compares an exit code and an output with what a test case expects. -/
def compare (lib : Libraries) (t : TestCase) (code : Int) (output : String) :
    Except Failure Outcome :=
  if code ≠ t.exitCode then .ok (.wrongExitCode t.exitCode code output)
  else match t.expected with
    | .exact expected =>
      .ok (if output = expected then .passed else .outputMismatch expected output)
    | .regex pattern =>
      match Pattern.isFoundIn? lib.fits pattern output with
      | none => .error (.badPattern pattern)
      | some true => .ok .passed
      | some false => .ok (.patternMismatch pattern output)

/-- The text of a stream, with its line ends normalised. -/
def decode (e : Execution) (s : Stream) : Except Failure String :=
  match String.fromUTF8? (e.output s) with
  | some text => .ok (Text.normalizeNewlines text)
  | none => .error (.notText s)

/-- The outcome of what a program has done. -/
def judge (lib : Libraries) (t : TestCase) (e : Execution) : Except Failure Outcome :=
  match decode e .out with
  | .error f => .error f
  | .ok out =>
    match decode e .err with
    | .error f => .error f
    | .ok err => compare lib t e.ending.code (out ++ err)

/-- Runs a test case. -/
def run (lib : Libraries) (d : Disk) (env : Environment) (t : TestCase) : Except Failure Outcome :=
  match d.program? env.executable t.arguments with
  | .error fault => .error (.launch env.executable fault)
  | .ok program => judge lib t (program t.arguments t.source.toUTF8)

end Runner

end BlackBox
