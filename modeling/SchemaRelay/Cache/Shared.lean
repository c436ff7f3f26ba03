import SchemaRelay.Cache.Table

/-!
# Caches that share a database

Several caches may be open on one database, each under a name. They share the rows; each has an index of ETags of its
own. Other programs may change the database too, and no index notices.
-/

namespace SchemaRelay

/-- A database and the indexes of the caches that are open on it. -/
structure SharedDatabase where
  db : Database
  indexes : Fields (Fields String)
  deriving Repr

namespace SharedDatabase

/-- A database on which no cache is open. -/
def ofDatabase (db : Database) : SharedDatabase := ⟨db, []⟩

/-- The cache open under a name. -/
def cache? (s : SharedDatabase) (name : String) : Option TableCache := (s.indexes.get? name).map (⟨s.db, ·⟩)

/-- Puts a cache in the place of the one open under a name; its rows are everyone's. -/
def set (s : SharedDatabase) (name : String) (c : TableCache) : SharedDatabase := ⟨c.db, s.indexes.insert name c.etags⟩

/-- Opens a cache under a name. When that fails, a cache already open under the name stays. -/
def openAs (s : SharedDatabase) (name : String) : SharedDatabase × Except Error TableCache :=
  match TableCache.openOn s.db with
  | (db, .ok c) => (set { s with db } name c, .ok c)
  | (db, .error e) => ({ s with db }, .error e)

/-- Closes the cache open under a name. -/
def close (s : SharedDatabase) (name : String) : SharedDatabase := { s with indexes := s.indexes.erase name }

/-- A change by another program. -/
def change {α : Type} (s : SharedDatabase) (f : Database → Except StatementFault (α × Database)) :
    SharedDatabase × Except StatementFault α :=
  match f s.db with
  | .ok (a, db) => ({ s with db }, .ok a)
  | .error fault => (s, .error fault)

/-- The cache open under a name as a store; where there is none, nothing is known and nothing is taken. -/
def store (now name : String) : Store SharedDatabase where
  etag? uri s := ((s.cache? name).bind (·.etag? uri), s)
  schema? uri s := ((s.cache? name).bind (·.schema? uri), s)
  put uri etag content s :=
    match s.cache? name with
    | none => (.error (.database .closed), s)
    | some c =>
      let (result, c) := c.put now uri etag content
      (result, s.set name c)

end SharedDatabase

end SchemaRelay
