import SchemaRelay.Json.Decode

/-!
# Schemas as the language server reports them

A schema has a URI and may have a name and a description. `statusLine` is what an editor shows for the schemas of the
active document.
-/

namespace SchemaRelay

/-- A schema as the language server reports it. -/
structure SchemaInfo where
  name : Option String
  description : Option String
  uri : String
  deriving DecidableEq, Repr

namespace SchemaInfo

/-- The schema's name, or its URI when it has none. -/
def displayName (s : SchemaInfo) : String := s.name.getD s.uri

/-- The members of the schema's object; an absent name or description is not written. -/
def members (s : SchemaInfo) : List (String × Json) :=
  (s.name.map fun n => ("name", .str n)).toList ++ (s.description.map fun d => ("description", .str d)).toList ++
    [("uri", .str s.uri)]

/-- Reads the members of a schema. -/
def ofFields (fs : Fields Json) : Except DecodeError SchemaInfo := do
  let description ← Decoder.member? fs "description" (.nullable .string)
  let name ← Decoder.member? fs "name" (.nullable .string)
  let uri ← Decoder.member? fs "uri" .string
  return ⟨name.join, description.join, ← Decoder.require "uri" uri⟩

/-- Reads a schema from its object, or from an array of name, description and URI. -/
def ofJson : Decoder SchemaInfo
  | .obj fs => ofFields fs
  | .arr xs => do
    let name ← Decoder.element? xs 0 (.nullable .string)
    let description ← Decoder.element? xs 1 (.nullable .string)
    let uri ← Decoder.element "SchemaInfo" 3 xs 2 .string
    Decoder.sizeAtMost 3 xs
    return ⟨name.join, description.join, uri⟩
  | v => .error (.invalidType v "struct SchemaInfo")

end SchemaInfo

/-- The line that tells which schemas apply to a document. -/
def statusLine (leading : String) : List SchemaInfo → String
  | [] => s!"{leading} No JSON Schema"
  | [schema] => s!"{leading} {schema.displayName}"
  | _ => s!"{leading} Multiple JSON Schemas..."

end SchemaRelay
