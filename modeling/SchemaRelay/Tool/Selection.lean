import SchemaRelay.Choice
import SchemaRelay.Error
import SchemaRelay.Settings

/-!
# Tools for choosing schemas

Three tools that need nothing but their parameters: `schema_select` rewrites the setting for one file, `schema_choices`
labels and orders the schemas of a picker, and `schema_status` gives the line for the active document. Each answers a
text or a failure.
-/

namespace SchemaRelay.Tool

/-- Parameters of `schema_select`. -/
structure SelectParams where
  settings : Settings
  fileUri : String
  schemaUri : String

/-- Reads the parameters of `schema_select`; without settings there are none yet. -/
def SelectParams.ofJson : Decoder SelectParams
  | .obj fs => do
    let fileUri ← Decoder.member? fs "fileUri" .string
    let schemaUri ← Decoder.member? fs "schemaUri" .string
    let settings ← Decoder.member? fs "settings" .fields
    let fileUri ← Decoder.require "fileUri" fileUri
    let schemaUri ← Decoder.require "schemaUri" schemaUri
    return ⟨.ofFields (settings.getD []), fileUri, schemaUri⟩
  | .arr xs => do
    let settings ← Decoder.element? xs 0 .fields
    let fileUri ← Decoder.element "SchemaSelectParams" 3 xs 1 .string
    let schemaUri ← Decoder.element "SchemaSelectParams" 3 xs 2 .string
    Decoder.sizeAtMost 3 xs
    return ⟨.ofFields (settings.getD []), fileUri, schemaUri⟩
  | v => .error (.invalidType v "struct SchemaSelectParams")

/-- The updated setting as text; both URIs have to be given. -/
def select (p : SelectParams) : Except Error String :=
  if p.fileUri = "" ∨ p.schemaUri = "" then .error (.invalidInput "fileUri and schemaUri are required")
  else .ok (p.settings.assign p.fileUri p.schemaUri).toJson.pretty

/-- A record of one list, read from an object or an array. Without `fallback` the list has to be there. -/
def oneList {α : Type} (record field : String) (read : Decoder α) (fallback : Option (List α)) : Decoder (List α)
  | .obj fs => do
    let xs ← Decoder.member? fs field (.list read)
    Decoder.require field (xs.or fallback)
  | .arr xs => do
    let ys ← match fallback with
      | some d => (Decoder.element? xs 0 (.list read)).map (·.getD d)
      | none => Decoder.element record 1 xs 0 (.list read)
    Decoder.sizeAtMost 1 xs
    return ys
  | v => .error (.invalidType v s!"struct {record}")

/-- Reads the parameters of `schema_choices`. -/
def choicesOfJson : Decoder (List SchemaChoice) := oneList "SchemaChoicesParams" "choices" SchemaChoice.ofJson none

/-- A choice beside its label. -/
def labelled (c : SchemaChoice) : Json := .obj (("label", .str c.label) :: c.members)

/-- The choices in order, each with its label. -/
def choices (cs : List SchemaChoice) : String := (Json.arr ((sortChoices cs).map labelled)).pretty

/-- Reads the parameters of `schema_status`; without schemas there are none. -/
def statusOfJson : Decoder (List SchemaInfo) := oneList "SchemaStatusParams" "schemas" SchemaInfo.ofJson (some [])

end SchemaRelay.Tool
