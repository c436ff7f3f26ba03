import SchemaRelay.Digest
import SchemaRelay.Error

/-!
# The database behind the cache

One table holds a row for each schema URI: the ETag, the content, the content's digest and the time of fetching. All
columns are declared as text, yet another program may put bytes into one, and such a column cannot be read. A second
table records which steps of the schema have been applied. Either table may be missing.
-/

namespace SchemaRelay

/-- What a column of a row holds. -/
inductive Cell where
  | text (value : String)
  | blob (bytes : List UInt8)
  deriving DecidableEq, Repr

/-- A row of the cache's table. -/
structure Row where
  uri : Cell
  etag : Cell
  content : Cell
  digest : Cell
  fetchedAt : Cell
  deriving DecidableEq, Repr

/-- A row all of whose columns are text. -/
structure CacheEntry where
  schemaUri : String
  etag : String
  content : String
  contentSha256 : String
  fetchedAt : String
  deriving DecidableEq, Repr

/-- The columns of the cache's table. -/
inductive Column where
  | uri
  | etag
  | content
  | digest
  | fetchedAt
  deriving DecidableEq, Repr

/-- The database. -/
structure Database where
  /-- The rows of the cache's table in the order in which they were added, if the table is there. -/
  rows : Option (List Row)
  /-- An index bears the name of the cache's table, which then cannot be made. -/
  nameTaken : Bool
  /-- The recorded steps in ascending order, if their table is there. -/
  versions : Option (List Int)
  deriving DecidableEq, Repr

namespace Column

/-- The name of a column. -/
def name : Column → String
  | .uri => "schema_uri"
  | .etag => "etag"
  | .content => "content"
  | .digest => "content_sha256"
  | .fetchedAt => "fetched_at"

def all : List Column := [.uri, .etag, .content, .digest, .fetchedAt]

/-- The column with a name. -/
def ofName? (name : String) : Option Column := all.find? (·.name == name)

/-- The place of a column in a row. -/
def index : Column → Nat
  | .uri => 0
  | .etag => 1
  | .content => 2
  | .digest => 3
  | .fetchedAt => 4

end Column

namespace Row

/-- What a column holds. -/
def cell (r : Row) : Column → Cell
  | .uri => r.uri
  | .etag => r.etag
  | .content => r.content
  | .digest => r.digest
  | .fetchedAt => r.fetchedAt

/-- The row with another value in a column. -/
def setCell (r : Row) (c : Column) (v : Cell) : Row :=
  match c with
  | .uri => { r with uri := v }
  | .etag => { r with etag := v }
  | .content => { r with content := v }
  | .digest => { r with digest := v }
  | .fetchedAt => { r with fetchedAt := v }

/-- The text in a column. -/
def text (r : Row) (c : Column) : Except StatementFault String :=
  match r.cell c with
  | .text s => .ok s
  | .blob _ => .error (.blobColumn c.index c.name)

/-- The row as an entry, its columns read one after the other. -/
def entry (r : Row) : Except StatementFault CacheEntry := do
  return ⟨← r.text .uri, ← r.text .etag, ← r.text .content, ← r.text .digest, ← r.text .fetchedAt⟩

end Row

namespace CacheEntry

/-- The row of an entry. -/
def row (e : CacheEntry) : Row :=
  ⟨.text e.schemaUri, .text e.etag, .text e.content, .text e.contentSha256, .text e.fetchedAt⟩

/-- The content is the one that the digest was made of. -/
def isIntact (e : CacheEntry) : Bool := digest e.content == e.contentSha256

end CacheEntry

namespace Database

/-- The name of the cache's table. -/
def tableName : String := "schema_cache"

/-- The name of the table of recorded steps. -/
def versionsName : String := "_migrations"

/-- A database without tables. -/
def empty : Database := ⟨none, false, none⟩

/-- The rows, or the fault that there is no table. -/
def table (db : Database) : Except StatementFault (List Row) :=
  match db.rows with
  | some rows => .ok rows
  | none => .error (.noTable tableName)

/-- The row of a URI. -/
def findRow (uri : String) (rows : List Row) : Option Row := rows.find? (·.uri == .text uri)

/-- The entry of a URI, if there is a row for it. -/
def entry (db : Database) (uri : String) : Except StatementFault (Option CacheEntry) := do
  match findRow uri (← db.table) with
  | some r => return some (← r.entry)
  | none => return none

/-- Puts a row in the place of the one with its URI, or at the end. -/
def putRow (r : Row) : List Row → List Row
  | [] => [r]
  | s :: rest => if s.uri = r.uri then r :: rest else s :: putRow r rest

/-- Writes an entry. -/
def upsert (db : Database) (e : CacheEntry) : Except StatementFault Database := do
  return { db with rows := some (putRow e.row (← db.table)) }

/-- The URI and the ETag of each row. -/
def etags (db : Database) : Except StatementFault (List (String × String)) := do
  (← db.table).mapM fun r => return (← r.text .uri, ← r.text .etag)

/-! ## Changes by other programs -/

/-- Sets a column of the row of a URI, and counts the rows changed. Two rows may not have one URI. -/
def setColumn (db : Database) (uri : String) (c : Column) (v : Cell) : Except StatementFault (Nat × Database) := do
  let rows ← db.table
  let changed := rows.countP (·.uri == .text uri)
  let others := rows.filter (·.uri ≠ .text uri)
  if c = .uri ∧ 0 < changed ∧ others.any (·.uri == v) then throw (.duplicate s!"{tableName}.{c.name}")
  let rows := rows.map fun r => if r.uri = .text uri then r.setCell c v else r
  return (changed, { db with rows := some rows })

/-- Adds a row. -/
def insertRow (db : Database) (r : Row) : Except StatementFault (Nat × Database) := do
  let rows ← db.table
  if rows.any (·.uri == r.uri) then throw (.duplicate s!"{tableName}.{Column.uri.name}")
  return (1, { db with rows := some (rows ++ [r]) })

/-- Removes the row of a URI. -/
def deleteRow (db : Database) (uri : String) : Except StatementFault (Nat × Database) := do
  let rows ← db.table
  return (rows.countP (·.uri == .text uri), { db with rows := some (rows.filter (·.uri ≠ .text uri)) })

/-- Removes the cache's table. -/
def dropTable (db : Database) : Except StatementFault Database := do
  let _ ← db.table
  return { db with rows := none }

/-- Gives the name of the cache's table to an index. -/
def takeName (db : Database) : Database := { db with nameTaken := true }

/-- The recorded steps. -/
def recorded (db : Database) : Except StatementFault (List Int) :=
  match db.versions with
  | some vs => .ok vs
  | none => .error (.noTable versionsName)

/-- Puts a number into its place in an ascending list. -/
def insertVersion (v : Int) : List Int → List Int
  | [] => [v]
  | w :: rest => if v < w then v :: w :: rest else w :: insertVersion v rest

/-- Records a step; none is recorded twice. -/
def record (db : Database) (v : Int) : Except StatementFault Database := do
  let vs ← db.recorded
  if v ∈ vs then throw (.duplicate s!"{versionsName}.version")
  return { db with versions := some (insertVersion v vs) }

/-- Forgets all recorded steps, and counts them. -/
def forgetRecords (db : Database) : Except StatementFault (Nat × Database) := do
  let vs ← db.recorded
  return (vs.length, { db with versions := some [] })

end Database

end SchemaRelay
