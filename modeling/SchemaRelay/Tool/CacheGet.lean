import SchemaRelay.Cache.Table
import SchemaRelay.Json.Decode

/-!
# The tool for cached entries

`schema_cache_get` shows what the cache holds for a URI.
-/

namespace SchemaRelay.Tool

/-- Parameters that are one URI, read as the record with the given name. -/
def uriParam (record : String) : Decoder String
  | .obj fs => do Decoder.require "uri" (← Decoder.member? fs "uri" .string)
  | .arr xs => do
    let uri ← Decoder.element record 1 xs 0 .string
    Decoder.sizeAtMost 1 xs
    return uri
  | v => .error (.invalidType v s!"struct {record}")

/-- Reads the parameters of `schema_cache_get`. -/
def cacheGetOfJson : Decoder String := uriParam "CacheGetParams"

/-- An entry as a document. -/
def entryJson (e : CacheEntry) : Json := .obj [("entry", e.toJson)]

/-- The entry of a URI as text. -/
def cacheGet (c : TableCache) (uri : String) : Except Error String := do
  match ← c.entry uri with
  | some e => return (entryJson e).pretty
  | none => throw (.cacheMiss uri)

end SchemaRelay.Tool
