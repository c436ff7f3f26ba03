import SchemaRelay.Tool.Associations
import SchemaRelay.Tool.CacheGet
import SchemaRelay.Tool.Selection

/-!
# Reading the documents of tools

What clients read from the documents that `schema_choices`, `schema_associations` and `schema_cache_get` answer. Records
are read from objects, or from arrays of their fields in order; a choice beside its label is one object of the members
of both, for which no array stands.
-/

namespace SchemaRelay

/-- A choice beside its label. -/
structure LabelledChoice where
  label : String
  choice : SchemaChoice
  deriving DecidableEq, Repr

/-- Reads a choice beside its label; the label is looked at first. -/
def LabelledChoice.ofJson : Decoder LabelledChoice
  | .obj fs => do
    let label ← Decoder.require "label" (← Decoder.member? fs "label" .string)
    let choice ← SchemaChoice.ofJson (.obj fs)
    return ⟨label, choice⟩
  | v => .error (.invalidType v "struct LabeledChoice")

/-- Reads an association. -/
def Association.ofJson : Decoder Association
  | .obj fs => do
    let fileMatch ← Decoder.member? fs "fileMatch" (.list .string)
    let uri ← Decoder.member? fs "uri" .string
    return ⟨← Decoder.require "fileMatch" fileMatch, ← Decoder.require "uri" uri⟩
  | .arr xs => do
    let fileMatch ← Decoder.element "SchemaAssociation" 2 xs 0 (.list .string)
    let uri ← Decoder.element "SchemaAssociation" 2 xs 1 .string
    Decoder.sizeAtMost 2 xs
    return ⟨fileMatch, uri⟩
  | v => .error (.invalidType v "struct SchemaAssociation")

/-- Reads an entry. -/
def CacheEntry.ofJson : Decoder CacheEntry
  | .obj fs => do
    let content ← Decoder.member? fs "content" .string
    let contentSha256 ← Decoder.member? fs "content_sha256" .string
    let etag ← Decoder.member? fs "etag" .string
    let fetchedAt ← Decoder.member? fs "fetched_at" .string
    let schemaUri ← Decoder.member? fs "schema_uri" .string
    return ⟨← Decoder.require "schema_uri" schemaUri, ← Decoder.require "etag" etag,
      ← Decoder.require "content" content, ← Decoder.require "content_sha256" contentSha256,
      ← Decoder.require "fetched_at" fetchedAt⟩
  | .arr xs => do
    let schemaUri ← Decoder.element "CacheEntry" 5 xs 0 .string
    let etag ← Decoder.element "CacheEntry" 5 xs 1 .string
    let content ← Decoder.element "CacheEntry" 5 xs 2 .string
    let contentSha256 ← Decoder.element "CacheEntry" 5 xs 3 .string
    let fetchedAt ← Decoder.element "CacheEntry" 5 xs 4 .string
    Decoder.sizeAtMost 5 xs
    return ⟨schemaUri, etag, content, contentSha256, fetchedAt⟩
  | v => .error (.invalidType v "struct CacheEntry")

namespace Tool

/-- Reads the document of `schema_choices`. -/
def labelledOfJson : Decoder (List LabelledChoice) := .list LabelledChoice.ofJson

/-- Reads the document of `schema_associations`. -/
def associationsOfJson : Decoder (List Association) :=
  oneList "AssociationsOutput" "associations" Association.ofJson none

/-- Reads the document of `schema_cache_get`. -/
def entryOfJson : Decoder CacheEntry
  | .obj fs => do Decoder.require "entry" (← Decoder.member? fs "entry" CacheEntry.ofJson)
  | .arr xs => do
    let e ← Decoder.element "CacheGetOutput" 1 xs 0 CacheEntry.ofJson
    Decoder.sizeAtMost 1 xs
    return e
  | v => .error (.invalidType v "struct CacheGetOutput")

end Tool

end SchemaRelay
