import SchemaRelay.Cache.Open
import SchemaRelay.Config.Search
import SchemaRelay.Http.Connector
import SchemaRelay.Rpc.Reply
import SchemaRelay.Tool.Associations
import SchemaRelay.Tool.Content
import SchemaRelay.Tool.Selection

/-!
# The service

A running service has its configuration, an open cache and a connector to the network. It answers calls of its tools.
-/

namespace SchemaRelay

/-- A running service over a network with states of type `ν`. -/
structure Service (ν : Type) where
  config : Config
  cache : TableCache
  connector : Http.Connector ν

/-- What a service finds around it: the network, the files and the time. -/
structure Surroundings (ν : Type) where
  wire : Http.Wire ν
  read : FileReader
  now : String

/-- Why a tool's call has no result. -/
inductive CallFault where
  | noTool
  | parameters (cause : DecodeError)
  | failed (cause : Error)
  deriving Repr

/-- The refusal of a call. -/
def CallFault.refusal : CallFault → Rpc.Refusal
  | .noTool => .badParameters "tool not found"
  | .parameters cause => .badParameters s!"failed to deserialize parameters: {cause.message}"
  | .failed cause => ⟨cause.code, cause.message⟩

namespace Service

variable {ν : Type}

/-- A service that has sent nothing yet. -/
def ready (config : Config) (cache : TableCache) (wire : ν) : Service ν := ⟨config, cache, .idle wire⟩

/-- Fetches the content for `schema_content`. -/
def content (env : Surroundings ν) (s : Service ν) (uri : String) : Except Error String × Service ν :=
  let fetch := s.config.fetch
  let transport := Http.Connector.transport env.wire (.ofConfig fetch)
  let world : World TableCache (Http.Connector ν) := ⟨s.cache, s.connector, []⟩
  let (result, world) := (Tool.content (TableCache.store env.now) transport fetch uri).run world
  (result, { s with cache := world.store, connector := world.transport })

/-- The result of a tool that reads its parameters from the arguments. -/
def withParams {α : Type} (args : Fields Json) (read : Decoder α) (tool : α → Except Error String) :
    Except CallFault String := do
  let params ← (read (.obj args)).mapError .parameters
  (tool params).mapError .failed

/-- Calls a tool: its text, and the service after the call. -/
def call (env : Surroundings ν) (s : Service ν) (name : String) (args : Fields Json) :
    Except CallFault String × Service ν :=
  match name with
  | "schema_associations" => (.ok (Tool.associations env.read s.config.extensionDirs), s)
  | "schema_cache_get" => (withParams args Tool.cacheGetOfJson (Tool.cacheGet s.cache), s)
  | "schema_choices" => (withParams args Tool.choicesOfJson fun cs => .ok (Tool.choices cs), s)
  | "schema_select" => (withParams args Tool.SelectParams.ofJson Tool.select, s)
  | "schema_status" => (withParams args Tool.statusOfJson fun ss => .ok (statusLine s.config.statusText ss), s)
  | "schema_content" =>
    match Tool.contentOfJson (.obj args) with
    | .error cause => (.error (.parameters cause), s)
    | .ok uri =>
      let (result, s) := s.content env uri
      (result.mapError .failed, s)
  | _ => (.error .noTool, s)

/-! ## Starting -/

/-- Why a service does not start. -/
inductive StartFault where
  | config (cause : Config.LoadError)
  | cache (cause : Error)
  deriving Repr

/-- The text of a failure to start. -/
def StartFault.message : StartFault → String
  | .config cause => cause.message
  | .cache cause => cause.display

/-- Starts a service in an environment: loads its configuration and opens its cache. -/
def start (t : Files) (cwd : Names) (env : Environment) (wire : ν) : Files × Except StartFault (Service ν) :=
  match Config.load (Config.search t cwd) env with
  | .error cause => (t, .error (.config cause))
  | .ok config =>
    match TableCache.openFile t cwd config.dbPath "service" with
    | (t, .error cause) => (t, .error (.cache cause))
    | (t, .ok cache) => (t, .ok (ready config cache wire))

end Service

end SchemaRelay
