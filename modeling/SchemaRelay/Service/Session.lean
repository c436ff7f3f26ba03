import SchemaRelay.Json.Reader
import SchemaRelay.Service.Basic
import SchemaRelay.Service.Catalogue

/-!
# Sessions

A client talks to the service in messages, one a line. It opens a session by a request, to which the service names the
version of the protocol that both speak, and a notification; any other message in their place ends the session before it
began. From then on every request has a reply and a notification has none.
-/

namespace SchemaRelay

/-- Why a session did not begin. -/
inductive SessionFault where
  /-- No request came. -/
  | noRequest
  /-- Another message came than the request that opens a session. -/
  | otherThanRequest
  /-- No notification came after the greeting. -/
  | noNotification
  /-- Another message came than the notification. -/
  | otherThanNotification
  deriving DecidableEq, Repr

/-- The text of a fault. -/
def SessionFault.message : SessionFault → String
  | .noRequest => "connection closed: initialized request"
  | .otherThanRequest => "expect initialized request"
  | .noNotification => "connection closed: initialize notification"
  | .otherThanNotification => "expect initialized notification"

/-- How far a session has come. -/
inductive Stage where
  /-- The request that opens the session is due. -/
  | waiting
  /-- The client's notification that it is ready is due. -/
  | greeted
  | running
  | ended (fault : Option SessionFault)
  deriving DecidableEq, Repr

/-- A session with a service. -/
structure Session (ν : Type) where
  stage : Stage
  service : Service ν

namespace Session

variable {ν : Type}

/-- The newest version of the protocol that the service speaks. -/
def protocolVersion : String := "2025-03-26"

/-- The version that both sides speak: the older one, by its text. -/
def commonVersion (wanted : String) : String := if wanted < protocolVersion then wanted else protocolVersion

/-- How the service presents itself. -/
def presentation (version : String) : Json :=
  .obj [("protocolVersion", .str version), ("capabilities", .obj [("tools", .obj [])]),
    ("serverInfo", .obj [("name", .str "yaml-schema-bridge"), ("version", .str "0.1.0")])]

/-- The text of a tool as the result of its call. -/
def toolResult (text : String) : Json :=
  .obj [("content", .arr [.obj [("type", .str "text"), ("text", .str text)]]), ("isError", .bool false)]

/-- Answers a request in a running session. -/
def answer (env : Surroundings ν) (s : Service ν) : Rpc.Request → Rpc.Answer × Service ν
  | .ping => (.ok (.obj []), s)
  | .openSession _ => (.ok (presentation protocolVersion), s)
  | .listTools => (.ok (.obj [("tools", .arr (Catalogue.tools.map Catalogue.ToolInfo.toJson))]), s)
  | .callTool name args =>
    let (result, s) := s.call env name args
    ((result.map toolResult).mapError CallFault.refusal, s)
  | .listResources => (.ok (.obj [("resources", .arr [])]), s)
  | .listResourceTemplates => (.ok (.obj [("resourceTemplates", .arr [])]), s)
  | .listPrompts => (.ok (.obj [("prompts", .arr [])]), s)
  | .complete => (.ok (.obj [("completion", .obj [("values", .arr [])])]), s)
  | .unknown method => (.error (.noMethod method), s)

/-- A session that is about to begin. -/
def new (s : Service ν) : Session ν := ⟨.waiting, s⟩

/-- What is wrong with a session to which no further line comes. -/
def fault? (s : Session ν) : Option SessionFault :=
  match s.stage with
  | .waiting => some .noRequest
  | .greeted => some .noNotification
  | .running => none
  | .ended fault => fault

/-- The session at its end. -/
def close (s : Session ν) : Session ν := { s with stage := .ended s.fault? }

/-- Takes a message: the reply to it, if there is one, and the session after it. A line that is no message ends the
session. -/
def step (env : Surroundings ν) (s : Session ν) (m : Option Rpc.Message) : Option Json × Session ν :=
  match s.stage, m with
  | .waiting, some (.request id (.openSession version)) =>
    (some (Rpc.reply id (.ok (presentation (commonVersion version)))), { s with stage := .greeted })
  | .greeted, some (.notification "notifications/initialized") => (none, { s with stage := .running })
  | .running, some (.request id request) =>
    let (result, service) := answer env s.service request
    (some (Rpc.reply id result), { s with service })
  | .running, some _ => (none, s)
  | .waiting, some _ => (none, { s with stage := .ended (some .otherThanRequest) })
  | .greeted, some _ => (none, { s with stage := .ended (some .otherThanNotification) })
  | .ended _, some _ => (none, s)
  | _, none => (none, s.close)

/-- Takes a line. -/
def line (env : Surroundings ν) (s : Session ν) (text : String) : Option Json × Session ν :=
  s.step env ((Json.parse? text).bind Rpc.Message.ofJson?)

end Session

end SchemaRelay
