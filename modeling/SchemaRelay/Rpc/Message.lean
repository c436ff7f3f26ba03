import SchemaRelay.Json.Basic
import SchemaRelay.Number.Word

/-!
# Messages

Messages of JSON-RPC 2.0 as a client sends them. A request has an id and wants a reply; a notification has none. The
methods that the service knows have types of their own; a known method with parameters that it cannot have counts as
an unknown one.
-/

namespace SchemaRelay.Rpc

/-- What ties a reply to its request. -/
inductive Id where
  | number (value : Int)
  | text (value : String)
  deriving DecidableEq, Repr

/-- What a client asks for. -/
inductive Request where
  | ping
  /-- Opens a session in a version of the protocol. -/
  | openSession (version : String)
  | listTools
  | callTool (name : String) (arguments : Fields Json)
  | listResources
  | listResourceTemplates
  | listPrompts
  | complete
  | unknown (method : String)
  deriving Repr

/-- A message of a client. -/
inductive Message where
  | request (id : Id) (request : Request)
  | notification (method : String)
  /-- A reply to the service, which asks for nothing. -/
  | reply
  deriving Repr

namespace Id

/-- An id, if a value is one: an integer of 64 bits with a sign, or a text. -/
def ofJson? : Json → Option Id
  | .num (.int n) => if Word.fitsSigned n then some (.number n) else none
  | .str s => some (.text s)
  | _ => none

def toJson : Id → Json
  | .number n => .ofInt n
  | .text s => .str s

end Id

namespace Request

/-- `null` and a missing member are the same. -/
def optional (v : Json) (name : String) : Option Json :=
  match v.get? name with
  | some .null => none
  | x => x

/-- The parameters of a list, which may name a place to go on from. -/
def isPage : Option Json → Bool
  | none => true
  | some .null => true
  | some (.obj fs) => (optional (.obj fs) "cursor").all fun c => c.str?.isSome
  | some _ => false

/-- The version that a client wants to speak, if it says all that it has to. -/
def wantedVersion? (params : Json) : Option String := do
  let version ← (params.get? "protocolVersion").bind Json.str?
  guard ((params.get? "capabilities").any fun c => match c with
    | .obj _ => true
    | _ => false)
  let client ← params.get? "clientInfo"
  guard ((client.get? "name").any (·.str?.isSome) && (client.get? "version").any (·.str?.isSome))
  return version

/-- The name and the arguments of a tool's call; there need not be any arguments. -/
def calledTool? (params : Json) : Option (String × Fields Json) := do
  let name ← (params.get? "name").bind Json.str?
  match optional params "arguments" with
  | none => return (name, [])
  | some (.obj fs) => return (name, fs)
  | some _ => none

/-- The parameters of a completion say what to complete and how it starts. -/
def isCompletion (params : Json) : Bool :=
  let isText (v : Option Json) : Bool := v.any (·.str?.isSome)
  let reference := match (params.at? ["ref", "type"]).bind Json.str? with
    | some "ref/prompt" => isText (params.at? ["ref", "name"])
    | some "ref/resource" => isText (params.at? ["ref", "uri"])
    | _ => false
  reference && isText (params.at? ["argument", "name"]) && isText (params.at? ["argument", "value"])

/-- The request of a method and its parameters. -/
def read (method : String) (params : Option Json) : Request :=
  let p := params.getD .null
  match method with
  | "ping" => .ping
  | "initialize" => ((wantedVersion? p).map openSession).getD (.unknown method)
  | "tools/list" => if isPage params then .listTools else .unknown method
  | "tools/call" => ((calledTool? p).map fun c => callTool c.1 c.2).getD (.unknown method)
  | "resources/list" => if isPage params then .listResources else .unknown method
  | "resources/templates/list" => if isPage params then .listResourceTemplates else .unknown method
  | "prompts/list" => if isPage params then .listPrompts else .unknown method
  | "completion/complete" => if isCompletion p then .complete else .unknown method
  | _ => .unknown method

end Request

namespace Message

/-- The message that a value is. -/
def ofJson? (v : Json) : Option Message := do
  guard ((v.get? "jsonrpc").bind Json.str? == some "2.0")
  match (v.get? "method").bind Json.str? with
  | some method =>
    match (v.get? "id").bind Id.ofJson? with
    | some id => return .request id (Request.read method (v.get? "params"))
    | none => return .notification method
  | none =>
    guard ((v.get? "result").isSome || (v.get? "error").isSome)
    return .reply

end Message

end SchemaRelay.Rpc
