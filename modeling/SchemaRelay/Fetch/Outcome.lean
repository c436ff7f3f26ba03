import SchemaRelay.Http.Status
import SchemaRelay.Http.Transport
import SchemaRelay.Text.Blank

/-!
# Outcomes of requests

For a fetch a request ends in one of three ways: with a document, with the news that the cached one still holds, or in
a failure. `Failure.diagnostic` is the best message that a failure has; it is never blank.
-/

namespace SchemaRelay

/-- Why a request gave no document. -/
inductive Failure where
  /-- The server answered something else. -/
  | remote (status : Nat) (body : String)
  /-- There was no answer. -/
  | transport (cause : Http.TransportError)
  deriving DecidableEq, Repr

/-- How a request ended. -/
inductive Outcome where
  | fresh (response : Http.Response)
  | notModified
  | failed (failure : Failure)
  deriving DecidableEq, Repr

namespace Failure

/-- The server's own words if it has any, else a sentence on its status, else the status; or the transport's message. -/
def diagnostic : Failure → String
  | .remote status body =>
    if Text.allBlank body then
      (Http.statusDescription status).getD s!"unexpected HTTP status {Http.statusText status}"
    else body
  | .transport cause => cause.message

end Failure

namespace Outcome

/-- The outcome of a request by its answer. -/
def ofAnswer : Except Http.TransportError Http.Response → Outcome
  | .ok r =>
    if r.isSuccess then .fresh r
    else if r.status = 304 then .notModified
    else .failed (.remote r.status r.body)
  | .error cause => .failed (.transport cause)

end Outcome

end SchemaRelay
