import SchemaRelay.Config.Load
import SchemaRelay.Files

/-!
# Finding the configuration file

A file named by an absolute path is taken as it is; a relative path is looked up in the working directory and in those
above it. A file that is not there counts as empty. Messages name the file from the working directory where that is
shorter.
-/

namespace SchemaRelay.Config

/-- The way from one directory to some names; equal names in front fall away. -/
def wayFrom : Names → Names → List String
  | [], names => names
  | here, [] => here.map fun _ => ".."
  | a :: here, b :: names => if a = b then wayFrom here names else ".." :: here.map (fun _ => "..") ++ b :: names

/-- How messages name a file. -/
def shownName (cwd : Names) (path : String) : String :=
  let names := FilePath.components path
  let way := wayFrom cwd names
  if way.length < names.length + 1 then "/".intercalate way else path

/-- The file of a path, if it is one. -/
def fileAt? (t : Files) (cwd : Names) (path : String) : Option FoundFile :=
  match t.resolve cwd path with
  | .error _ => none
  | .ok names =>
    match t.node? names with
    | some (.file bytes) => some ⟨shownName cwd path, bytes⟩
    | some (.database _) => some ⟨shownName cwd path, ByteArray.mk #[0xFF]⟩
    | _ => none

/-- The path of a directory. -/
def directoryPath (names : Names) : String := "/" ++ "/".intercalate names

/-- The directories from one up to the root. -/
def upwards (names : Names) : List Names :=
  (List.range (names.length + 1)).map fun i => names.take (names.length - i)

/-- Looks a configuration file up. -/
def search (t : Files) (cwd : Names) (path : String) : Option FoundFile :=
  if FilePath.isAbsolute path then fileAt? t cwd path
  else (upwards cwd).findSome? fun dir => fileAt? t cwd (FilePath.join (directoryPath dir) path)

end SchemaRelay.Config
