import SchemaRelay.Json.Basic

/-!
# The tools on offer

Name, description and parameters of each tool, as clients are told of them. Parameters are described in the language
of JSON Schema.
-/

namespace SchemaRelay.Catalogue

/-- What a client is told of a tool. -/
structure ToolInfo where
  name : String
  description : String
  parameters : Json

namespace ToolInfo

def toJson (t : ToolInfo) : Json :=
  .obj [("name", .str t.name), ("description", .str t.description), ("inputSchema", t.parameters)]

end ToolInfo

/-- A text. -/
def text : Json := .obj [("type", .str "string")]

/-- A text that may be `null`. -/
def nullableText : Json := .obj [("type", .str "string"), ("nullable", .bool true)]

/-- A flag that is off unless given. -/
def flag : Json := .obj [("type", .str "boolean"), ("default", .bool false)]

/-- A list of records that are described elsewhere. -/
def listOf (record : String) : Json :=
  .obj [("type", .str "array"), ("items", .obj [("$ref", .str ("#/$defs/" ++ record))])]

/-- A value with a description. -/
def described (what : String) : Json → Json
  | .obj fs => .obj (("description", .str what) :: fs)
  | v => v

/-- A value that need not be given. -/
def optional (fallback : Json) : Json → Json
  | .obj fs => .obj (("default", fallback) :: fs)
  | v => v

/-- The members of a record. -/
def record (properties : List (String × Json)) (required : List String) : List (String × Json) :=
  [("type", .str "object"), ("properties", .obj properties)] ++
    (if required.isEmpty then [] else [("required", .strings required)])

/-- The parameters of a tool: a record, and the records that it refers to. -/
def parameters (title what : String) (properties : List (String × Json)) (required : List String)
    (records : List (String × Json)) : Json :=
  .obj ([("$schema", .str "https://json-schema.org/draft/2020-12/schema"), ("title", .str title),
    ("description", .str what)] ++ record properties required ++
    (if records.isEmpty then [] else [("$defs", .obj records)]))

/-- A schema as the language server reports it. -/
def schemaInfo : Json :=
  .obj (("description", .str "A schema as reported by the language server.") ::
    record [("uri", text), ("name", nullableText), ("description", nullableText)] ["uri"])

/-- A schema that can be chosen. -/
def schemaChoice : Json :=
  .obj (("description", .str "A selectable schema, flagged when it already applies to the current file.") ::
    record [("uri", text), ("name", nullableText), ("description", nullableText), ("usedForCurrentFile", flag),
      ("fromStore", flag)] ["uri"])

/-- All tools in the order of their names. -/
def tools : List ToolInfo := [
  ⟨"schema_associations", "List the schema associations contributed by installed extensions.", .obj (record [] [])⟩,
  ⟨"schema_cache_get", "Show the cached entry (ETag, content, fetch time) for a schema URI.",
    parameters "CacheGetParams" "Parameters for the schema_cache_get tool."
      [("uri", described "The schema URI the entry was cached under." text)] ["uri"] []⟩,
  ⟨"schema_choices", "Label and order schema choices for a picker, schemas in use first.",
    parameters "SchemaChoicesParams" "Parameters for the schema_choices tool."
      [("choices", described "Schemas reported by the language server for the current file." (listOf "SchemaChoice"))]
      ["choices"] [("SchemaChoice", schemaChoice)]⟩,
  ⟨"schema_content",
    "Return the content of a schema URI. Revalidates cached copies with ETags and serves the cached copy when " ++
      "the network fails.",
    parameters "SchemaContentParams" "Parameters for the schema_content tool."
      [("uri", described "Absolute URI of the schema document." text)] ["uri"] []⟩,
  ⟨"schema_select", "Associate a file with a schema in the yaml.schemas setting. Returns the updated setting.",
    parameters "SchemaSelectParams" "Parameters for the schema_select tool."
      [("settings", described "Current value of the `yaml.schemas` setting."
        (optional (.obj []) (.obj [("type", .str "object"), ("additionalProperties", .bool true)]))),
      ("fileUri", described "URI of the file to associate." text),
      ("schemaUri", described "URI of the chosen schema." text)] ["fileUri", "schemaUri"] []⟩,
  ⟨"schema_status", "Status text for the schemas applied to the active YAML document.",
    parameters "SchemaStatusParams" "Parameters for the schema_status tool."
      [("schemas", described "Schemas the language server applies to the active document."
        (optional (.arr []) (listOf "SchemaInfo")))] [] [("SchemaInfo", schemaInfo)]⟩]

end SchemaRelay.Catalogue
