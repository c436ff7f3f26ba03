import SchemaRelay.Fetch.Content
import SchemaRelay.Tool.CacheGet
import SchemaRelay.Url.Parser

/-!
# The tool for contents

`schema_content` gives the content of the schema at a URI, which has to be an absolute URL.
-/

namespace SchemaRelay.Tool

variable {σ τ : Type}

/-- Reads the parameters of `schema_content`. -/
def contentOfJson : Decoder String := uriParam "SchemaContentParams"

/-- A URI without white space around it, if it is a URL. -/
def checkedUri (uri : String) : Except Error String :=
  let trimmed := Text.trim uri
  if trimmed = "" then .error (.invalidInput "uri cannot be empty")
  else match Url.parse trimmed with
    | .ok _ => .ok trimmed
    | .error cause => .error (.invalidUrl s!"{trimmed}: {cause.message}")

/-- The content of the schema at a URI. -/
def content (s : Store σ) (t : Http.Transport τ) (c : FetchConfig) (uri : String) :
    StateM (World σ τ) (Except Error String) :=
  match checkedUri uri with
  | .ok trimmed => Fetch.content s t c trimmed
  | .error e => return .error e

end SchemaRelay.Tool
