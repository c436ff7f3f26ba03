import SchemaRelay.Manifest

/-!
# The tool for associations

`schema_associations` lists what the installed extensions contribute.
-/

namespace SchemaRelay.Tool

/-- The associations as a document. -/
def associationsJson (as : List Association) : Json :=
  .obj [("associations", .arr (as.map Association.toJson))]

/-- The associations of the extensions in the given directories, as text. -/
def associations (read : FileReader) (directories : List String) : String :=
  (associationsJson (Association.collect (Manifest.loadAll read directories))).pretty

end SchemaRelay.Tool
