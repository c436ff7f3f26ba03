import SchemaRelay.Cache.Store
import SchemaRelay.Fields

/-!
# A cache in memory

A cache that keeps an ETag and a content for each URI and never fails.
-/

namespace SchemaRelay

/-- ETag and content by URI. -/
abbrev MemoryCache := Fields (String × String)

namespace MemoryCache

def empty : MemoryCache := []

/-- The number of URIs. -/
def size (c : MemoryCache) : Nat := c.length

/-- No URI is known. -/
def isEmpty (c : MemoryCache) : Bool := c.size == 0

/-- The ETag of a URI. -/
def etag? (c : MemoryCache) (uri : String) : Option String := (Fields.get? c uri).map (·.1)

/-- The content of a URI. -/
def schema? (c : MemoryCache) (uri : String) : Option String := (Fields.get? c uri).map (·.2)

/-- Takes an ETag and a content. -/
def put (c : MemoryCache) (uri etag content : String) : MemoryCache := Fields.insert c uri (etag, content)

/-- The cache in memory as a store. -/
def store : Store MemoryCache where
  etag? uri c := (c.etag? uri, c)
  schema? uri c := (c.schema? uri, c)
  put uri etag content c := (.ok (), c.put uri etag content)

end MemoryCache

end SchemaRelay
