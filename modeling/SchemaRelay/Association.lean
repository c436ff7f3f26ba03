import SchemaRelay.Json.Decode
import SchemaRelay.Text.WordChar
import SchemaRelay.Url.File

/-!
# Schema associations of extensions

An extension's manifest lists, under `contributes.yamlValidation`, schemas and the file patterns they apply to. The
language server wants absolute schema URIs and rooted patterns: `schemaUri?` resolves a URL that starts with `./`
against the extension's directory, and `rootPattern` roots a pattern. Elements that are no association are left out
(`ofContribution?`) and do not touch the others (`collect`).
-/

namespace SchemaRelay

/-- A schema and the file patterns it applies to. -/
structure Association where
  fileMatch : List String
  uri : String
  deriving DecidableEq, Repr

/-- A manifest and the directory of its extension. -/
structure Manifest where
  directory : String
  package : Json
  deriving Repr

namespace Association

/-- The text with the first occurrence of `old` replaced. -/
def replaceFirst (old new : List Char) : List Char → List Char
  | [] => if old.isEmpty then new else []
  | c :: rest =>
    if old.isPrefixOf (c :: rest) then new ++ (c :: rest).drop old.length else c :: replaceFirst old new rest

/-- The editor's directories that a pattern may name, and their roots. -/
def placeholders : List (String × String) :=
  [("%APP_SETTINGS_HOME%", "/User"), ("%MACHINE_SETTINGS_HOME%", "/Machine"), ("%APP_WORKSPACES_HOME%", "/Workspaces")]

/-- The text starts with a word and `://`. -/
def hasScheme (s : List Char) : Bool :=
  !(s.takeWhile Text.isWord).isEmpty && [':', '/', '/'].isPrefixOf (s.dropWhile Text.isWord)

/-- A pattern that starts with a scheme, a slash or a negation. -/
def isRooted (s : List Char) : Bool :=
  match s with
  | '/' :: _ => true
  | '!' :: _ => true
  | s => hasScheme s

/-- The rooted form of a pattern: placeholders of a pattern that starts with a percent sign are replaced, a rooted
pattern stays, and any other gets a slash in front. -/
def rootPattern (pattern : String) : String :=
  let s := pattern.toList
  match s with
  | '%' :: _ => String.ofList (placeholders.foldl (fun t p => replaceFirst p.1.toList p.2.toList t) s)
  | _ => if isRooted s then pattern else String.ofList ('/' :: s)

/-- The URI of a contributed schema: relative to the extension's directory where it starts with `./`, which needs an
absolute directory, and unchanged otherwise. -/
def schemaUri? (directory url : String) : Option String :=
  if ['.', '/'].isPrefixOf url.toList then
    (Url.pathNames? directory).map fun names => (Url.ofRelative names url).text
  else some url

/-- The file patterns of a contribution: one string, or the strings of a list. -/
def patterns? : Option Json → Option (List String)
  | some (.str s) => some [s]
  | some (.arr xs) => some (xs.filterMap Json.str?)
  | _ => none

/-- The association that an element of the list contributes, if it is one. -/
def ofContribution? (directory : String) (v : Json) : Option Association := do
  let url ← (v.get? "url").bind Json.str?
  let patterns ← patterns? (v.get? "fileMatch")
  let uri ← schemaUri? directory url
  return ⟨patterns.map rootPattern, uri⟩

/-- The elements that a manifest contributes. -/
def contributions (package : Json) : List Json :=
  ((package.at? ["contributes", "yamlValidation"]).bind Json.arr?).getD []

/-- The associations of a manifest. -/
def ofManifest (m : Manifest) : List Association := (contributions m.package).filterMap (ofContribution? m.directory)

/-- The associations of all manifests, one manifest after the other. -/
def collect (manifests : List Manifest) : List Association := manifests.flatMap ofManifest

/-- The members of an association. -/
def toJson (a : Association) : Json := .obj [("fileMatch", .strings a.fileMatch), ("uri", .str a.uri)]

end Association

end SchemaRelay
