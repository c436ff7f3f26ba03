import SchemaRelay.Schema
import SchemaRelay.Text.Lowercase

/-!
# Choosing among schemas

A choice is a schema offered for a file. `sortChoices` puts the schemas in use first and orders each group by label,
letter case aside; choices that tie keep their order.
-/

namespace SchemaRelay

/-- A schema offered for the current file. -/
structure SchemaChoice where
  schema : SchemaInfo
  usedForCurrentFile : Bool
  fromStore : Bool
  deriving DecidableEq, Repr

namespace SchemaChoice

/-- The schema's display name, followed by its description if it has one. -/
def label (c : SchemaChoice) : String :=
  match c.schema.description with
  | some d => s!"{c.schema.displayName} {d}"
  | none => c.schema.displayName

/-- The members of a choice: those of its schema and two flags. -/
def members (c : SchemaChoice) : List (String × Json) :=
  c.schema.members ++ [("usedForCurrentFile", .bool c.usedForCurrentFile), ("fromStore", .bool c.fromStore)]

/-- Reads a choice; the flags are looked at before the members of the schema. -/
def ofJson : Decoder SchemaChoice
  | .obj fs => do
    let fromStore ← Decoder.member? fs "fromStore" .bool
    let used ← Decoder.member? fs "usedForCurrentFile" .bool
    let schema ← SchemaInfo.ofFields fs
    return ⟨schema, used.getD false, fromStore.getD false⟩
  | v => .error (.invalidType v "struct SchemaChoice")

/-- The label by which choices of one group are ordered. -/
def sortLabel (c : SchemaChoice) : String := Text.lowercase c.label

/-- A choice may stand before another. -/
def before (c d : SchemaChoice) : Bool :=
  if c.usedForCurrentFile = d.usedForCurrentFile then c.sortLabel ≤ d.sortLabel else c.usedForCurrentFile

end SchemaChoice

/-- Schemas in use first, then by label. -/
def sortChoices (choices : List SchemaChoice) : List SchemaChoice := choices.mergeSort SchemaChoice.before

end SchemaRelay
