import SchemaRelay.Config.Basic
import SchemaRelay.Http.Header

/-!
# Requests for schemas

A request is answered by a response, whatever its status, or fails without one. What answers requests is a transport:
any function on a state.
-/

namespace SchemaRelay.Http

/-- A request for one document. -/
structure Request where
  url : String
  maxRedirects : Nat
  headers : List Header
  settings : HttpSettings
  deriving DecidableEq, Repr

/-- What a server answered. -/
structure Response where
  status : Nat
  headers : List Header
  body : String
  deriving DecidableEq, Repr

/-- Why there is no response. -/
inductive TransportError where
  | proxy (address reason : String)
  | client (reason : String)
  | timeout (reason : String)
  | network (reason : String)
  | decode (reason : String)
  deriving DecidableEq, Repr

/-- What answers requests, over states of type `τ`. -/
abbrev Transport (τ : Type) := Request → τ → Except TransportError Response × τ

/-- The text of a failure. -/
def TransportError.message : TransportError → String
  | .proxy address reason => s!"invalid proxy {address}: {reason}"
  | .client reason => s!"failed to build HTTP client: {reason}"
  | .timeout reason => s!"request timed out: {reason}"
  | .network reason => s!"network error: {reason}"
  | .decode reason => s!"response body is not valid UTF-8: {reason}"

namespace Response

/-- The status tells that the body is what was asked for. -/
def isSuccess (r : Response) : Bool := 200 ≤ r.status && r.status < 300

/-- The ETag under which the response can be asked for again: its first one, if that reads as text and is not empty. -/
def etag? (r : Response) : Option String :=
  ((Header.first? r.headers "etag").bind Header.text?).filter (· ≠ "")

end Response

namespace Transport

/-- Gives the answers of a list in turn; when none is left, every request fails. -/
def ofList : Transport (List (Except TransportError Response)) := fun _ replies =>
  match replies with
  | [] => (.error (.network "no scripted reply"), [])
  | r :: rest => (r, rest)

end Transport

end SchemaRelay.Http
