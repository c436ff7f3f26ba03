import SchemaRelay.Http.Transport
import SchemaRelay.Http.Wire
import SchemaRelay.Text.Utf8
import SchemaRelay.Url.Join

/-!
# Clients

A client carries out requests under options that are fixed when it is built: proxy, certificates, how it names itself,
how long it waits and how many redirects it follows.
-/

namespace SchemaRelay.Http

/-- What tells one client of a service from another. -/
structure ClientKey where
  settings : HttpSettings
  maxRedirects : Nat
  deriving DecidableEq, Repr

/-- What all clients of a service have in common. -/
structure Sender where
  userAgent : String
  timeoutMs : Nat
  deriving DecidableEq, Repr

/-- A client. -/
structure Client where
  sender : Sender
  proxy : Option Url
  checksCertificates : Bool
  maxRedirects : Nat
  deriving DecidableEq, Repr

namespace Client

/-- The words for what a client cannot be made of. -/
def builderError : String := "builder error"

/-- The URL of a proxy. An address without scheme counts as one of `http`. -/
def proxyUrl? (proxy : String) : Option Url :=
  let withHost (s : String) : Option Url := (Url.parse s).toOption.filter Url.hasHost
  match Url.parse proxy with
  | .ok url => if url.hasHost then some url else withHost s!"http://{proxy}"
  | .error .relativeWithoutBase => withHost s!"http://{proxy}"
  | .error _ => none

/-- The proxy of a setting; an empty one is none. -/
def proxyOf : Option String → Except TransportError (Option Url)
  | none => .ok none
  | some "" => .ok none
  | some proxy =>
    match proxyUrl? proxy with
    | some url => .ok (some url)
    | none => .error (.proxy proxy builderError)

/-- Builds a client. -/
def build (s : Sender) (key : ClientKey) : Except TransportError Client := do
  let proxy ← proxyOf key.settings.proxy
  if Header.isSendable s.userAgent then
    return ⟨s, proxy, key.settings.proxyStrictSsl, key.maxRedirects⟩
  else throw (.client builderError)

/-- A failure that names a URL. -/
def about (what : String) (url : Url) : String := s!"{what} for url ({url.text})"

/-- Characters of a host that have no place in a request. -/
def isUnsendable (c : Char) : Bool := c ∈ ['"', '\x60', '\x7b', '\x7d']

/-- A client can send requests to a URL: it belongs to the web and its host can be written in a request. -/
def accepts (url : Url) : Bool :=
  (url.scheme == "http".toList || url.scheme == "https".toList) && url.hasHost &&
    (url.authority.all fun a => !a.host.text.any isUnsendable)

/-- The URL that a text asks for. User and password are no part of it. -/
def target (text : String) : Except TransportError Url :=
  match Url.parse text with
  | .error _ => .error (.network builderError)
  | .ok url =>
    if !url.hasHost then .error (.network (about builderError url))
    else if accepts url.withoutLogin then .ok url.withoutLogin
    else .error (.network (about builderError url.withoutLogin))

/-- Where a reply sends the client: to the reference in its location, if a client accepts that. -/
def next? (url : Url) (r : Reply) : Option Url := do
  guard (r.status ∈ Reply.redirects)
  let location ← Header.first? r.headers "location"
  let reference ← String.fromUTF8? ⟨location.toArray⟩
  let next ← (url.join reference).toOption
  guard (accepts next)
  return next.withoutLogin

/-- The failure of a request by the fault of the network. -/
def failure (url : Url) : WireFault → TransportError
  | .unanswered => .network (about "error sending request" url)
  | .timedOut => .timeout (about "error sending request" url)

/-- A single request of a client. -/
def exchange (c : Client) (headers : List Header) (url : Url) : Exchange :=
  ⟨url, ⟨"user-agent", Header.bytes c.sender.userAgent⟩ :: headers, c.proxy, c.checksCertificates, c.sender.timeoutMs⟩

variable {ν : Type}

/-- Requests a URL and follows up to `hops` redirects. -/
def follow (w : Wire ν) (c : Client) (headers : List Header) (hops : Nat) (url : Url) (n : ν) :
    Except TransportError Reply × ν :=
  match w (c.exchange headers url) n with
  | (.error fault, n) => (.error (failure url fault), n)
  | (.ok r, n) =>
    match next? url r, hops with
    | none, _ => (.ok r, n)
    | some _, 0 => (.error (.network (about "error following redirect" url)), n)
    | some next, hops + 1 => follow w c headers hops next n

/-- The response made of a reply to the request for `url`. -/
def response (url : String) (r : Reply) : Except TransportError Response :=
  match r.body with
  | none => .error (.network "error decoding response body")
  | some bytes =>
    match Text.Utf8.decode bytes with
    | .ok body => .ok ⟨r.status, r.headers, body⟩
    | .error fault => .error (.decode s!"{url}: {fault.message}")

/-- Carries out a request. -/
def get (w : Wire ν) (c : Client) (r : Request) (n : ν) : Except TransportError Response × ν :=
  match target r.url with
  | .error e => (.error e, n)
  | .ok url =>
    let (result, n) := follow w c r.headers c.maxRedirects url n
    (result.bind (response r.url), n)

end Client

end SchemaRelay.Http
