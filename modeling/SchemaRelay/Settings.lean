import SchemaRelay.Json.Basic

/-!
# The setting that maps schemas to files

The setting `yaml.schemas` holds, for each schema, one file pattern or a list of them. `Settings.assign` associates a
file with one schema only: it is taken away wherever else it stood, and added to the schema that was chosen.
-/

namespace SchemaRelay

/-- What the setting holds for each schema, in the order of their URIs. -/
structure Settings where
  entries : Fields Json
  sorted : entries.Sorted

/-- A value that counts as set: neither null, false, zero nor the empty string. -/
def Json.isTruthy : Json → Bool
  | .null => false
  | .bool b => b
  | .num n => !n.isZero
  | .str s => s ≠ ""
  | .arr _ => true
  | .obj _ => true

namespace Settings

/-- The settings made of the given entries, the last one for each schema. -/
def ofFields (entries : Fields Json) : Settings := ⟨Fields.ofList entries, Fields.Sorted.ofList entries⟩

/-- The setting as JSON. -/
def toJson (s : Settings) : Json := .obj s.entries

/-- The value is the string `file`. -/
def isFile (file : String) : Json → Bool
  | .str s => s = file
  | _ => false

/-- What remains of a schema's value without a file: a string equal to it goes, a list loses it wherever it stands,
and may become empty. -/
def withoutFile (file : String) : Json → Option Json
  | .str s => if s = file then none else some (.str s)
  | .arr xs => some (.arr (xs.filter fun x => !isFile file x))
  | v => some v

/-- The entries without a file. -/
def removeFile (entries : Fields Json) (file : String) : Fields Json :=
  entries.filterMap fun (schema, value) => (withoutFile file value).map (schema, ·)

/-- A schema's value with a file added. A list grows at its end and a pattern becomes a list of two. Another value that
counts as set stays as it is; one that does not is replaced. -/
def withFile (file : String) : Option Json → Json
  | some (.arr xs) => .arr (xs ++ [.str file])
  | some (.str s) => if s = "" then .str file else .arr [.str s, .str file]
  | some v => if v.isTruthy then v else .str file
  | none => .str file

theorem removeFile_sorted {entries : Fields Json} (h : entries.Sorted) (file : String) :
    (removeFile entries file).Sorted := by
  unfold removeFile
  refine List.Pairwise.filterMap _ ?_ h
  rintro ⟨a, v⟩ ⟨b, w⟩ hab p hp q hq
  simp only [Option.map_eq_some_iff] at hp hq
  obtain ⟨_, _, rfl⟩ := hp
  obtain ⟨_, _, rfl⟩ := hq
  exact hab

/-- The setting after choosing `schema` for `file`. -/
def assign (s : Settings) (file schema : String) : Settings :=
  let rest := removeFile s.entries file
  ⟨rest.insert schema (withFile file (rest.get? schema)), (removeFile_sorted s.sorted file).insert _ _⟩

end Settings

end SchemaRelay
