import BlackBox.Files.Directory
import BlackBox.Log
import BlackBox.Text.Lines

/-!
# Discovery of test files

The test files below a root: all files at any depth whose names end in `.yaml`. Symbolic links are
followed. `find` gives the paths of the files as the root is written, in the order of paths, and
`filterPaths` keeps those that contain a text.

The root and the end of the names are put together to a pattern for paths. A search goes along the
pattern: parts of the root that stand for themselves are looked up, and for any other part, as for
what follows the root, the entries of a directory are listed. The search fails if it comes to a
directory that cannot be listed.
-/

namespace BlackBox.Discovery

/-- The end of the names of test files. -/
def extension : String := ".yaml"

/-- Whether a name is that of a test file. -/
def isTestFile (name : String) : Bool := extension.toList.isSuffixOf name.toList

/-- The path of an entry of a directory. The current directory is left out of it. -/
def child (path name : String) : String :=
  if path = "." then name else Path.join path name

/-! ## Directories that cannot be listed -/

/-- A directory that cannot be listed. -/
structure Blocked where
  /-- The path by which it is listed. -/
  path : String
  /-- What keeps it from being listed. -/
  fault : Fault
  deriving Repr, DecidableEq

/-- What is said of a directory that cannot be listed. -/
def Blocked.message (b : Blocked) : String :=
  "attempting to read \x60" ++ b.path ++ "\x60 resulted in an error: " ++ b.fault.message

/-- What keeps a directory from being listed by a path. -/
def fault? (path : String) (here : Directory) : Option Fault :=
  if Directory.maxPath < path.utf8ByteSize then some .tooLong
  else if here.mayList then none
  else some .denied

/-- What a search comes to: the path of an entry with the name of a test file, or a directory that
cannot be listed. -/
abbrev Visit := Except Blocked String

/-! ## Below a directory -/

/-- What comes of the entries of a directory, unless it cannot be listed. -/
def listed (path : String) (here : Directory) (entries : List Visit) : List Visit :=
  match fault? path here with
  | some fault => [.error ⟨path, fault⟩]
  | none => entries

/-- The path of an entry, if it has the name of a test file. -/
def called (base name : String) : List Visit :=
  if isTestFile name then [.ok (child base name)] else []

/-- What a search comes to in some entries of the directory at a path and below them. `jump` gives
what it comes to below a directory that a symbolic link leads to. -/
def gather (d : Disk) (jump : String → Directory → List Visit) (base : String) :
    Directory → List Visit
  | .empty _ => []
  | .file name _ rest => called base name ++ gather d jump base rest
  | .folder name inside rest =>
    called base name ++
      (listed (child base name) inside (gather d jump (child base name) inside) ++
        gather d jump base rest)
  | .link name _ rest =>
    -- Only here the path is followed: it is not known otherwise what the link leads to.
    let beyond := match d.folder? (child base name) with
      | some inside => jump (child base name) inside
      | none => []
    called base name ++ (beyond ++ gather d jump base rest)

/-- What a search comes to below the directory at a path, through at most `links` symbolic links. A
path that meets more links than a path may leads nowhere. -/
def below (d : Disk) : Nat → String → Directory → List Visit
  | 0, base, here => listed base here (gather d (fun _ _ => []) base here)
  | links + 1, base, here => listed base here (gather d (below d links) base here)

/-! ## The root -/

/-- The parts of a root path. A separator at the end begins no further part. -/
def rootParts (root : String) : List String :=
  let parts := Directory.pathParts root
  let parts := if Path.isAbsolute root then parts.tail else parts
  if parts.getLast? == some "" then parts.dropLast else parts

/-- The path that the parts of a root are followed from. -/
def start (root : String) : String := if Path.isAbsolute root then "/" else "."

/-- Whether a part of a root stands for itself in a pattern for paths. -/
def isLiteral (part : String) : Bool :=
  part.toList.all fun c => !(['?', '*', '[', ']'].contains c)

/-- The directory that a part of a root leads to from the directory at a path, if it leads to one.
For a part that does not stand for itself the directory is listed. -/
def enter (d : Disk) (path : String) (here : Directory) (part : String) :
    Except Blocked (Option Directory) :=
  if isLiteral part then .ok (d.folder? (child path part))
  else match fault? path here with
    | some fault => .error ⟨path, fault⟩
    | none =>
      -- The entry is taken from the list, so its path may be too long to be followed.
      match here.find? part with
      | some (.folder inside) => .ok (some inside)
      | some (.link _) => .ok (d.folder? (child path part))
      | _ => .ok none

/-- What a search comes to from the directory at a path, with some parts of the root to go. -/
def along (d : Disk) (path : String) (here : Directory) : List String → List Visit
  | [] => below d Directory.maxLinks path here
  | part :: parts =>
    match enter d path here part with
    | .error b => [.error b]
    | .ok none => []
    | .ok (some next) => along d (child path part) next parts

/-- What a search below a root comes to, in no particular order. -/
def search (d : Disk) (root : String) : List Visit :=
  match d.folder? (start root) with
  | none => []
  | some here => along d (start root) here (rootParts root)

/-! ## Test files -/

/-- The directories that a search comes to and cannot list. -/
def blocked (visits : List Visit) : List Blocked :=
  visits.filterMap fun
    | .error b => some b
    | .ok _ => none

/-- The paths that a search comes to. -/
def paths (visits : List Visit) : List String :=
  visits.filterMap Except.toOption

/-- The test files below a root, in the order of paths, with a record of their number. A search goes
in the order of paths too, and it fails at the first directory that cannot be listed. -/
def find (d : Disk) (root : String) : Except Blocked (List String × List Log.Record) :=
  let visits := search d root
  match ((blocked visits).mergeSort fun a b => Path.le a.path b.path).head? with
  | some b => .error b
  | none =>
    let found := (paths visits).filter fun p => (d.file? p).isSome
    .ok (found.mergeSort Path.le,
      [⟨.info, "found " ++ toString found.length ++ " test files in '" ++ root ++ "'"⟩])

/-- The paths that contain a text, if one is given. -/
def filterPaths (filter : Option String) (paths : List String) : List String :=
  match filter with
  | none => paths
  | some part => paths.filter fun p => Text.contains p part

end BlackBox.Discovery
