import BlackBox.Files.Path
import BlackBox.Program

/-!
# Files and directories

A directory tree, and what a path leads to in it. A path is followed part by part; symbolic links
are replaced by their text as they are met, and the number of links that one path may meet is
limited. Paths can be followed through a directory that may not be listed. What can go wrong is a
`Fault`.
-/

namespace BlackBox

/-- A file. -/
structure File where
  /-- What is in the file. -/
  content : ByteArray := .empty
  /-- Whether the file may be run. -/
  executable : Bool := false
  /-- What it does when it is run, if it is a program. -/
  program : Option Program := none

/-- The entries of a directory. -/
inductive Directory where
  /-- No further entries, and whether the directory may be listed. -/
  | empty (readable : Bool := true)
  /-- A file, before the other entries. -/
  | file (name : String) (f : File) (rest : Directory)
  /-- A symbolic link, before the other entries. -/
  | link (name : String) (target : String) (rest : Directory)
  /-- A directory, before the other entries. -/
  | folder (name : String) (inside rest : Directory)

/-- There is a directory without entries. -/
instance : Inhabited Directory := ⟨.empty⟩

/-- An entry of a directory. -/
inductive Entry where
  /-- A file. -/
  | file (f : File)
  /-- A symbolic link. -/
  | link (target : String)
  /-- A directory. -/
  | folder (inside : Directory)

/-- What can go wrong with a path or with a file. -/
inductive Fault where
  /-- There is no such file. -/
  | notFound
  /-- Another kind of file stands where a directory has to be. -/
  | notDirectory
  /-- A directory stands where another kind of file has to be. -/
  | isDirectory
  /-- The file may not be run, or the directory may not be listed. -/
  | denied
  /-- The file is no program. -/
  | notProgram
  /-- The path meets too many symbolic links. -/
  | loop
  /-- The path or a part of it is too long. -/
  | tooLong
  /-- There is a null character in the path. -/
  | nulInPath
  /-- There is a null character in an argument. -/
  | nulInArgument
  /-- The file does not hold text. -/
  | notText
  deriving Repr, DecidableEq

/-- The text of a fault. -/
def Fault.message : Fault → String
  | notFound => "No such file or directory (os error 2)"
  | notDirectory => "Not a directory (os error 20)"
  | isDirectory => "Is a directory (os error 21)"
  | denied => "Permission denied (os error 13)"
  | notProgram => "Exec format error (os error 8)"
  | loop => "Too many levels of symbolic links (os error 40)"
  | tooLong => "File name too long (os error 36)"
  | nulInPath => "file name contained an unexpected NUL byte"
  | nulInArgument => "nul byte found in provided data"
  | notText => "stream did not contain valid UTF-8"

namespace Directory

/-- Whether a directory may be listed. -/
def mayList : Directory → Bool
  | empty readable => readable
  | file _ _ rest | link _ _ rest | folder _ _ rest => rest.mayList

/-- The directory with the same entries that may not be listed. -/
def unlisted : Directory → Directory
  | empty _ => empty false
  | file n f rest => file n f rest.unlisted
  | link n target rest => link n target rest.unlisted
  | folder n inside rest => folder n inside rest.unlisted

/-- The entry with a name. -/
def find? (name : String) : Directory → Option Entry
  | empty _ => none
  | file n f rest => if n = name then some (.file f) else find? name rest
  | link n target rest => if n = name then some (.link target) else find? name rest
  | folder n inside rest => if n = name then some (.folder inside) else find? name rest

/-- The directory with an entry in place of the one with its name, or with a further entry. -/
def set (name : String) (e : Entry) : Directory → Directory
  | empty readable => single name e (empty readable)
  | file n f rest => if n = name then single name e rest else file n f (set name e rest)
  | link n target rest =>
    if n = name then single name e rest else link n target (set name e rest)
  | folder n inside rest =>
    if n = name then single name e rest else folder n inside (set name e rest)
where
  /-- An entry before some others. -/
  single (name : String) (e : Entry) (rest : Directory) : Directory :=
    match e with
    | .file f => file name f rest
    | .link target => link name target rest
    | .folder inside => folder name inside rest

/-- The directory with a name inside a directory, or an empty one if there is none. -/
def inside (name : String) (d : Directory) : Directory :=
  match d.find? name with
  | some (.folder inside) => inside
  | _ => empty

/-- Changes the directory at a path, which is made if there is none. -/
def within (f : Directory → Directory) : List String → Directory → Directory
  | [], d => f d
  | name :: names, d => d.set name (.folder (within f names (d.inside name)))

/-! ## Following paths -/

/-- The greatest length of a name in bytes. -/
def maxName : Nat := 255

/-- The greatest length of a path in bytes. -/
def maxPath : Nat := 4095

/-- The greatest number of symbolic links that a path may meet. -/
def maxLinks : Nat := 40

/-- Where following a path stops. -/
inductive Stop where
  /-- At a file at the end of the path. -/
  | file (f : File)
  /-- At a directory at the end of the path; the directories around it, the innermost first. -/
  | folder (here : Directory) (around : List Directory)
  /-- At a symbolic link, with the directories around it and the parts of the path after it. -/
  | link (target : String) (here : Directory) (around : List Directory) (rest : List String)

/-- Follows the parts of a path from a directory up to its end or a symbolic link. -/
def advance (here : Directory) (around : List Directory) : List String → Except Fault Stop
  | [] => .ok (.folder here around)
  | part :: rest =>
    if part = "" ∨ part = "." then advance here around rest
    else if part = ".." then
      match around with
      | [] => advance here [] rest
      | outer :: around => advance outer around rest
    else if maxName < part.utf8ByteSize then .error .tooLong
    else match here.find? part with
      | none => .error .notFound
      | some (.file f) => if rest.isEmpty then .ok (.file f) else .error .notDirectory
      | some (.folder inside) => advance inside (here :: around) rest
      | some (.link target) => .ok (.link target here around rest)

/-- The parts of a path. -/
def pathParts (path : String) : List String :=
  (Path.parts path.toList).map String.ofList

/-- Follows the parts of a path to a file or a directory, through at most `links` symbolic links. -/
def follow (root : Directory) : Nat → Directory → List Directory → List String →
    Except Fault Stop
  | 0, here, around, parts =>
    match advance here around parts with
    | .ok (.link ..) => .error .loop
    | r => r
  | links + 1, here, around, parts =>
    match advance here around parts with
    | .ok (.link target here around rest) =>
      if target.isEmpty then .error .notFound
      else
        let parts := pathParts target ++ rest
        if Path.isAbsolute target then follow root links root [] parts
        else follow root links here around parts
    | r => r

end Directory

/-- The files that can be reached, and the current directory. -/
structure Disk where
  /-- The root of the file system. -/
  root : Directory
  /-- The path of the current directory, from the root. -/
  current : String

namespace Disk

/-- What a path leads to. -/
def resolve (d : Disk) (path : String) : Except Fault Directory.Stop :=
  if path.toList.contains '\x00' then .error .nulInPath
  else if path.isEmpty then .error .notFound
  else if Directory.maxPath < path.utf8ByteSize then .error .tooLong
  else
    d.root.follow Directory.maxLinks d.root []
      (Directory.pathParts (if Path.isAbsolute path then path else d.current ++ "/" ++ path))

/-- The names on the way to a path. -/
def names (d : Disk) (path : String) : List String :=
  let path := if Path.isAbsolute path then path else d.current ++ "/" ++ path
  (Directory.pathParts path).filter fun n => n ≠ "" ∧ n ≠ "."

/-- Makes a directory and those around it, where there is none. -/
def makeFolder (d : Disk) (path : String) : Disk :=
  { d with root := d.root.within id (d.names path) }

/-- Puts an entry at a path. Directories are made as needed. -/
def put (d : Disk) (path : String) (e : Entry) : Disk :=
  let names := d.names path
  match names.getLast? with
  | none => d
  | some name => { d with root := d.root.within (·.set name e) names.dropLast }

/-- Forbids to list the directory at a path. -/
def hide (d : Disk) (path : String) : Disk :=
  { d with root := d.root.within Directory.unlisted (d.names path) }

/-- The file at a path, links followed. -/
def file? (d : Disk) (path : String) : Option File :=
  match d.resolve path with
  | .ok (.file f) => some f
  | _ => none

/-- The directory at a path, links followed. -/
def folder? (d : Disk) (path : String) : Option Directory :=
  match d.resolve path with
  | .ok (.folder here _) => some here
  | _ => none

/-- The text of the file at a path. -/
def readText (d : Disk) (path : String) : Except Fault String :=
  match d.resolve path with
  | .error e => .error e
  | .ok (.file f) =>
    match String.fromUTF8? f.content with
    | some text => .ok text
    | none => .error .notText
  | .ok _ => .error .isDirectory

end Disk

end BlackBox
