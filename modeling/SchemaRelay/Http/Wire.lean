import SchemaRelay.Http.Header
import SchemaRelay.Url.Basic

/-!
# The network

What goes over the network and what comes back. A network is any function on a state; it sees single requests, and
redirects are not its business.
-/

namespace SchemaRelay.Http

/-- A request as it goes over the network. -/
structure Exchange where
  url : Url
  headers : List Header
  /-- The proxy that it goes through. -/
  proxy : Option Url
  /-- Certificates that do not hold are refused. -/
  checksCertificates : Bool
  timeoutMs : Nat
  deriving DecidableEq, Repr

/-- What comes back. -/
structure Reply where
  status : Nat
  headers : List Header
  /-- The body, unless the connection broke before its end. -/
  body : Option (List UInt8)
  deriving DecidableEq, Repr

/-- Why nothing comes back. -/
inductive WireFault where
  /-- There was no connection, or it was closed. -/
  | unanswered
  | timedOut
  deriving DecidableEq, Repr

/-- A network with states of type `ν`. -/
abbrev Wire (ν : Type) := Exchange → ν → Except WireFault Reply × ν

namespace Wire

/-- A network in which nothing can be reached. -/
def unreachable : Wire Unit := fun _ n => (.error .unanswered, n)

end Wire

namespace Reply

/-- Statuses that send the client on. -/
def redirects : List Nat := [301, 302, 303, 307, 308]

end Reply

end SchemaRelay.Http
