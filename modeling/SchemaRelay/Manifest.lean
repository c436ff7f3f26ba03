import SchemaRelay.Association
import SchemaRelay.Error
import SchemaRelay.FileFault
import SchemaRelay.FilePath
import SchemaRelay.Json.Reader

/-!
# Reading manifests

The manifest of an extension is the file `package.json` in its directory. `Manifest.loadAll` leaves out what cannot be
read, so one broken extension does not touch the others.
-/

namespace SchemaRelay

/-- Why a manifest could not be read. -/
inductive ManifestFault where
  | unreadable (cause : FileFault)
  | notUtf8
  | notJson
  deriving DecidableEq, Repr

/-- The text of a fault. -/
def ManifestFault.message : ManifestFault → String
  | .unreadable cause => cause.message
  | .notUtf8 => notUtf8Message
  | .notJson => "not a JSON document"

namespace Manifest

/-- Where the manifest of a directory is. -/
def path (directory : String) : String := FilePath.join directory "package.json"

/-- Reads the manifest of a directory. -/
def load (read : FileReader) (directory : String) : Except ManifestFault Manifest :=
  match read (path directory) with
  | .error cause => .error (.unreadable cause)
  | .ok bytes =>
    match String.fromUTF8? bytes with
    | none => .error .notUtf8
    | some text =>
      match Json.parse? text with
      | none => .error .notJson
      | some v => .ok ⟨directory, v⟩

/-- The failure to read the manifest of a directory. -/
def failure (directory : String) (fault : ManifestFault) : Error :=
  .manifest s!"{path directory}: {fault.message}"

/-- The manifests of all directories where there is one that can be read. -/
def loadAll (read : FileReader) (directories : List String) : List Manifest :=
  directories.filterMap fun d => (load read d).toOption

end Manifest

end SchemaRelay
