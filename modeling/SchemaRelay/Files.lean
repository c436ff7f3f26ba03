import SchemaRelay.Cache.Shared
import SchemaRelay.FileFault
import SchemaRelay.FilePath

/-!
# Files and directories

A tree of files without links, as far as the service looks at one: it reads files, makes directories and keeps a
database in a file. Paths are absolute or start at a working directory; the way to a name has to lead through
directories.
-/

namespace SchemaRelay

/-- What a name stands for. -/
inductive FileNode where
  | file (bytes : ByteArray)
  | directory
  | database (db : SharedDatabase)

/-- The names of a path from the root on. -/
abbrev Names := List String

/-- A tree of files. The root is a directory. -/
structure Files where
  nodes : List (Names × FileNode)

namespace Files

/-- The node of a name. -/
def node? (t : Files) (names : Names) : Option FileNode :=
  if names = [] then some .directory else (t.nodes.find? (·.1 == names)).map (·.2)

def isDirectory (t : Files) (names : Names) : Bool :=
  match t.node? names with
  | some .directory => true
  | _ => false

/-- The tree with another node for a name. -/
def set (t : Files) (names : Names) (node : FileNode) : Files :=
  ⟨(names, node) :: t.nodes.filter (·.1 ≠ names)⟩

/-- Makes the directories along names, as far as they are missing. -/
def makePath (t : Files) (names : Names) : Files :=
  (List.range names.length).foldl (fun t i =>
    let front := names.take (i + 1)
    if (t.node? front).isSome then t else t.set front .directory) t

/-- The names in a directory. -/
def list (t : Files) (directory : Names) : List String :=
  t.nodes.filterMap fun (names, _) =>
    if names.dropLast = directory then names.getLast? else none

/-- Follows the parts of a path from a directory. The last one may be missing. -/
def walk (t : Files) (here : Names) : List String → Except FileFault Names
  | [] => .ok here
  | part :: rest =>
    if !t.isDirectory here then .error (if (t.node? here).isSome then .notADirectory else .notFound)
    else if part = "" ∨ part = "." then walk t here rest
    else if part = ".." then walk t here.dropLast rest
    else if 255 < part.utf8ByteSize then .error .nameTooLong
    else walk t (here ++ [part]) rest

/-- The names that a path leads to from a working directory. -/
def resolve (t : Files) (cwd : Names) (path : String) : Except FileFault Names :=
  if path = "" then .error .notFound
  else if '\x00' ∈ path.toList then .error .nulInName
  else walk t (if FilePath.isAbsolute path then [] else cwd) (FilePath.parts path)

/-- The bytes of a file. -/
def read (t : Files) (cwd : Names) (path : String) : Except FileFault ByteArray := do
  match t.node? (← t.resolve cwd path) with
  | none => throw .notFound
  | some .directory => throw .isADirectory
  | some (.file bytes) => return bytes
  | some (.database _) => return ByteArray.mk #[0xFF]

/-- Makes one directory. -/
def makeDirectory (t : Files) (cwd : Names) (path : String) : Except FileFault Files := do
  let names ← t.resolve cwd path
  match t.node? names with
  | some _ => throw .exists
  | none => return t.set names .directory

/-- Makes a directory and those it is in, as far as they are missing. The recursion goes down a bound on the number of
parts of the path. -/
def makeDirectories (t : Files) (cwd : Names) (path : String) : Nat → Except FileFault Files
  | 0 => .ok t
  | fuel + 1 =>
    if path = "" then .ok t
    else match t.makeDirectory cwd path with
      | .ok t => .ok t
      | .error .notFound =>
        match FilePath.parent? path with
        | none => .error .notFound
        | some up =>
          match makeDirectories t cwd up fuel with
          | .error fault => .error fault
          | .ok t => t.makeDirectory cwd path
      | .error fault =>
        match t.resolve cwd path with
        | .ok names => if t.isDirectory names then .ok t else .error fault
        | .error _ => .error fault

end Files

end SchemaRelay
