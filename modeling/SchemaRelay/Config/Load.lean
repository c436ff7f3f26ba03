import SchemaRelay.Config.Environment
import SchemaRelay.Config.Validation
import SchemaRelay.FileFault
import SchemaRelay.Toml.Reader

/-!
# Loading the configuration

A setting takes its value from the environment if a variable gives one, else from the configuration file, else its
default; the extension directories have a variable of their own, which replaces the file's list as a whole. The result
is within the limits of `Config.validate`.
-/

namespace SchemaRelay.Config

/-- Where a value comes from. -/
inductive Source where
  /-- The configuration file, by the name that messages use for it. -/
  | file (name : String)
  | environment
  deriving DecidableEq, Repr

/-- A value and where it comes from. -/
structure Given where
  source : Source
  value : Value
  deriving Repr

/-- A configuration file that was found. -/
structure FoundFile where
  /-- How messages name the file. -/
  name : String
  bytes : ByteArray

/-- Why the sources give no configuration. -/
inductive LoadFault where
  | notUtf8 (file : String)
  | malformed (file : String)
  | mismatch (cause : Mismatch) (key : List String) (source : Source)
  deriving Repr

/-- A key and its source in a message. -/
def Source.locate (key : List String) : Source → String
  | .file name =>
    let dotted := ".".intercalate ("default" :: key)
    s!"for key \"{dotted}\" in {name} TOML file"
  | .environment =>
    let dotted := String.ofList ((".".intercalate key).toList.map Char.toUpper)
    s!"for key \"{dotted}\" in `{variableStart}` environment variable(s)"

/-- The text of a fault. -/
def LoadFault.message : LoadFault → String
  | .notUtf8 file => s!"{notUtf8Message}\n in {file} TOML file"
  | .malformed file => s!"TOML parse error in {file} TOML file"
  | .mismatch cause key source => s!"{cause.message} {source.locate key}"

/-- Why there is no configuration. -/
inductive LoadError where
  | sources (fault : LoadFault)
  | limits (fault : ConfigFault)
  deriving Repr

/-- The text of a failure to load. -/
def LoadError.message : LoadError → String
  | .sources fault => s!"failed to load configuration: {fault.message}"
  | .limits fault => fault.message

/-! ## Sources -/

/-- The settings of the file and of the environment. -/
structure Sources where
  fileName : String
  file : Fields Value
  environment : Fields Value

/-- The settings that a file gives. -/
def ofFile (f : FoundFile) : Except LoadFault (Fields Value) :=
  match String.fromUTF8? f.bytes with
  | none => .error (.notUtf8 f.name)
  | some text =>
    match Toml.parse? text with
    | none => .error (.malformed f.name)
    | some fields => .ok (Value.ofFields fields)

namespace Sources

/-- The value of a setting: the environment's if it has one, put over the file's where both are tables. -/
def given? (s : Sources) (key : String) : Option Given :=
  match s.environment.get? key, s.file.get? key with
  | some v, old => some ⟨.environment, Value.combine old v⟩
  | none, some v => some ⟨.file s.fileName, v⟩
  | none, none => none

variable {α : Type}

/-- Reads a setting, which has its default when no source gives a value. -/
def setting (s : Sources) (key : String) (read : Value → Except Mismatch α) (fallback : α) : Except LoadFault α :=
  match s.given? key with
  | none => .ok fallback
  | some g => (read g.value).mapError fun m => .mismatch m [key] g.source

/-- Reads the elements of a list; a bad one is named by its place. -/
def elements (source : Source) (key : String) (read : Value → Except Mismatch α) :
    Nat → List Value → Except LoadFault (List α)
  | _, [] => .ok []
  | i, v :: vs => do
    let a ← (read v).mapError fun m => .mismatch m [key, toString i] source
    return a :: (← elements source key read (i + 1) vs)

/-- Reads a setting that is a list. -/
def listSetting (s : Sources) (key : String) (read : Value → Except Mismatch α) (fallback : List α) :
    Except LoadFault (List α) :=
  match s.given? key with
  | none => .ok fallback
  | some ⟨source, .list vs⟩ => elements source key read 0 vs
  | some ⟨source, v⟩ => .error (.mismatch (.kind v "a sequence") [key] source)

/-- The configuration that the sources give. Settings are looked at in the order of their keys. -/
def config (s : Sources) : Except LoadFault Config := do
  let d : Config := {}
  let dbPath ← s.setting "db_path" (Value.asText "path string") d.dbPath
  let extensionDirs ← s.listSetting "extension_dirs" (Value.asText "path string") d.extensionDirs
  let httpProxy ← s.setting "http_proxy" (fun v => (v.asText "a string").map some) d.httpProxy
  let strict ← s.setting "http_proxy_strict_ssl" Value.asBool d.httpProxyStrictSsl
  let maxRedirects ← s.setting "max_redirects" (Value.asWord "usize") d.maxRedirects
  let statusText ← s.setting "status_text" (Value.asText "a string") d.statusText
  let timeoutMs ← s.setting "timeout_ms" (Value.asWord "u64") d.timeoutMs
  let userAgent ← s.setting "user_agent" (Value.asText "a string") d.userAgent
  return ⟨dbPath, userAgent, timeoutMs, maxRedirects, httpProxy, strict, statusText, extensionDirs⟩

end Sources

/-- The sources of an environment; `find` looks a configuration file up by its path. -/
def sources (find : String → Option FoundFile) (env : Environment) : Except LoadFault Sources :=
  match (env.get? fileVariable).bind find with
  | none => .ok ⟨"", [], ofEnvironment env⟩
  | some f => (ofFile f).map fun fields => ⟨f.name, fields, ofEnvironment env⟩

/-- The configuration with the extension directories that the environment lists, if it does. -/
def withListedDirs (env : Environment) (c : Config) : Config :=
  match env.get? dirsVariable with
  | some list => { c with extensionDirs := splitPaths list }
  | none => c

/-- Loads the configuration of an environment. -/
def load (find : String → Option FoundFile) (env : Environment) : Except LoadError Config := do
  let s ← (sources find env).mapError .sources
  let c ← s.config.mapError .sources
  let c := withListedDirs env c
  c.validate.mapError .limits
  return c

end SchemaRelay.Config
