import SchemaRelay.Files

/-!
# Opening the cache of a file

The directories on the way to the file are made if they are missing. A file that is missing or empty becomes a new
database; a file with anything else in it than a database is refused and stays as it is.

A path is the name of a file, save the empty path and `:memory:`, which stand for no file but for a database that nobody
else sees. URI names are left out: SQLite reads a path that starts with `file:` as a URI, which may stand for such a
database as well (`file::memory:`) or for a file under another name, while here it names a file as it is written.
-/

namespace SchemaRelay.TableCache

/-- The directory of a path exists from here on. -/
def prepareDirectory (t : Files) (cwd : Names) (path : String) : Except Error Files :=
  match FilePath.parent? path with
  | none => .ok t
  | some directory =>
    match t.makeDirectories cwd directory (directory.length + 1) with
    | .ok t => .ok t
    | .error fault => .error (.invalidInput s!"cannot create {directory}: {fault.message}")

/-- The names of a database file and the database in it. -/
def databaseAt (t : Files) (cwd : Names) (path : String) : Except StatementFault (Names × SharedDatabase) :=
  match t.resolve cwd path with
  | .error _ => .error (.cannotOpen path)
  | .ok names =>
    match t.node? names with
    | some .directory => .error (.cannotOpen path)
    | some (.database db) => .ok (names, db)
    | some (.file bytes) =>
      if bytes.size = 0 then .ok (names, .ofDatabase Database.empty) else .error .notADatabase
    | none => .ok (names, .ofDatabase Database.empty)

/-- The path stands for a database without a file. Those that do so as URIs are left out. -/
def isPrivate (path : String) : Bool := path == "" || path == ":memory:"

/-- Opens the cache of a path under a name. Directories and database that were made or changed stay so when opening
fails. -/
def openFile (t : Files) (cwd : Names) (path name : String) : Files × Except Error TableCache :=
  if isPrivate path then (t, .ok fresh)
  else
    match prepareDirectory t cwd path with
    | .error e => (t, .error e)
    | .ok t =>
      match databaseAt t cwd path with
      | .error fault => (t, .error (.ofFault fault))
      | .ok (names, db) =>
        let (db, result) := db.openAs name
        (t.set names (.database db), result)

end SchemaRelay.TableCache
