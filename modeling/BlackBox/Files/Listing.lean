import BlackBox.Files.Directory
import BlackBox.Yaml.Read

/-!
# File systems as documents

A file system can be written down as a document: a mapping with the current directory, directories,
the contents of files, the texts of symbolic links, for each program the steps that it takes, and
the directories that may not be listed. Paths are relative to the current directory, and directories
are made as needed.
-/

namespace BlackBox

open Yaml (Value)

namespace Listing

/-- The text of a value. -/
def text? : Value → Option String
  | .string s => some s
  | _ => none

/-- The number of a value. -/
def number? : Value → Option Nat
  | .int n => if 0 ≤ n then some n.toNat else none
  | _ => none

/-- The stream with a name. -/
def stream? : Value → Option Stream
  | .string "out" => some .out
  | .string "err" => some .err
  | _ => none

/-- Reads a step: a mapping whose only key says what to do. -/
def step? : Value → Option Step
  | .mapping [(.string key, v)] =>
    if key = "out" then (text? v).map fun s => .write .out s.toUTF8
    else if key = "err" then (text? v).map fun s => .write .err s.toUTF8
    else if key = "copy" then (stream? v).map .copy
    else if key = "arguments" then (stream? v).map .arguments
    else if key = "exit" then (number? v).map fun n => .finish (.exit n)
    else if key = "signal" then (number? v).map fun n => .finish (.signal n)
    else none
  | _ => none

/-- Reads a program. -/
def program? : Value → Option Entry
  | .sequence steps => do
    let script ← steps.mapM step?
    return .file { executable := true, program := some (Script.program script) }
  | .null => some (.file { executable := true, program := some (Script.program []) })
  | _ => none

/-- Reads the content of a file. -/
def file? (v : Value) : Option Entry :=
  (text? v).map fun s => .file { content := s.toUTF8 }

/-- The entries of a part of a listing, which may be left out. -/
def section? (key : String) (listing : List (Value × Value)) : Option (List (Value × Value)) :=
  match Value.lookup key listing with
  | none | some .null => some []
  | some (.mapping entries) => some entries
  | _ => none

/-- Puts the entries of a part of a listing on a disk. -/
def putAll (read : Value → Option Entry) (d : Disk) (entries : List (Value × Value)) :
    Option Disk :=
  entries.foldlM (fun d e => do return d.put (← text? e.1) (← read e.2)) d

/-- Reads a listing. -/
def ofValue? : Value → Option Disk
  | .null => some { root := .empty, current := "/" }
  | .mapping listing => do
    let current ← ((Value.lookup "current" listing).map text?).getD (some "/")
    let d := ({ root := .empty, current } : Disk).makeFolder current
    let d ← (← section? "directories" listing).foldlM
      (fun d e => do return d.makeFolder (← text? e.1)) d
    let d ← putAll file? d (← section? "files" listing)
    let d ← putAll program? d (← section? "programs" listing)
    let d ← putAll (fun v => (text? v).map .link) d (← section? "links" listing)
    (← section? "unlisted" listing).foldlM (fun d e => do return d.hide (← text? e.1)) d
  | _ => none

end Listing

/-- The file system that a document describes. -/
def Disk.ofText? (text : String) : Option Disk := do
  Listing.ofValue? (← Yaml.read text)

end BlackBox
