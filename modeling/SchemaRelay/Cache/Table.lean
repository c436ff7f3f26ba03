import SchemaRelay.Cache.Migration
import SchemaRelay.Cache.Store
import SchemaRelay.Fields
import SchemaRelay.Json.Writer

/-!
# The cache over a database

An open cache has the database and an index of ETags of its own, read when it is opened and changed by its own writes
only. ETags come from the index. Contents come from the database, and only where the digest beside them holds.
-/

namespace SchemaRelay

/-- A cache that is open on a database. -/
structure TableCache where
  db : Database
  etags : Fields String
  deriving Repr

namespace TableCache

/-- Reads the index of a database. -/
def load (db : Database) : Except Error TableCache :=
  match db.etags with
  | .ok pairs => .ok ⟨db, Fields.ofList pairs⟩
  | .error fault => .error (.ofFault fault)

/-- Brings a database up to date and opens a cache on it. The database changes also when that fails. -/
def openOn (db : Database) : Database × Except Error TableCache :=
  match Migration.run db with
  | (db, .ok ()) => (db, load db)
  | (db, .error e) => (db, .error e)

/-- The cache on a new database. -/
def fresh : TableCache := ⟨(Migration.run Database.empty).1, []⟩

/-- The number of URIs in the index. -/
def size (c : TableCache) : Nat := c.etags.length

/-- No URI is in the index. -/
def isEmpty (c : TableCache) : Bool := c.size == 0

/-- The ETag of a URI. -/
def etag? (c : TableCache) (uri : String) : Option String := c.etags.get? uri

/-- The entry of a URI. -/
def entry (c : TableCache) (uri : String) : Except Error (Option CacheEntry) :=
  (c.db.entry uri).mapError .ofFault

/-- The content of a URI, if its row can be read and its digest holds. -/
def schema? (c : TableCache) (uri : String) : Option String :=
  match c.db.entry uri with
  | .ok (some e) => if e.isIntact then some e.content else none
  | _ => none

/-- The entry of a content fetched at the time `now`. -/
def entryOf (now uri etag content : String) : CacheEntry := ⟨uri, etag, content, digest content, now⟩

/-- Takes an ETag and a content: the row first, then the index. -/
def put (now : String) (c : TableCache) (uri etag content : String) : Except Error Unit × TableCache :=
  match c.db.upsert (entryOf now uri etag content) with
  | .ok db => (.ok (), ⟨db, c.etags.insert uri etag⟩)
  | .error fault => (.error (.ofFault fault), c)

/-- The cache over a database as a store; entries bear the time `now`. -/
def store (now : String) : Store TableCache where
  etag? uri c := (c.etag? uri, c)
  schema? uri c := (c.schema? uri, c)
  put uri etag content c := c.put now uri etag content

end TableCache

namespace CacheEntry

/-- The members of an entry. -/
def toJson (e : CacheEntry) : Json :=
  .obj [("schema_uri", .str e.schemaUri), ("etag", .str e.etag), ("content", .str e.content),
    ("content_sha256", .str e.contentSha256), ("fetched_at", .str e.fetchedAt)]

end CacheEntry

end SchemaRelay
