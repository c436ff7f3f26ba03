import SchemaRelay.Http.Client

/-!
# Keeping a client

Building a client is dear, so a connector keeps the last one it built and uses it for as long as requests need the same.
-/

namespace SchemaRelay.Http

/-- The client built last, with what it was built for, and the state of the network. -/
structure Connector (ν : Type) where
  kept : Option (ClientKey × Client)
  wire : ν
  deriving Repr

/-- What a request needs of a client. -/
def Request.key (r : Request) : ClientKey := ⟨r.settings, r.maxRedirects⟩

namespace Connector

variable {ν : Type}

/-- A connector without a client. -/
def idle (wire : ν) : Connector ν := ⟨none, wire⟩

/-- The client for a key, and the connector that keeps it. One that cannot be built leaves the connector as it is. -/
def clientFor (s : Sender) (c : Connector ν) (key : ClientKey) : Except TransportError Client × Connector ν :=
  let built : Except TransportError Client × Connector ν :=
    match Client.build s key with
    | .ok client => (.ok client, { c with kept := some (key, client) })
    | .error e => (.error e, c)
  match c.kept with
  | some (current, client) => if current = key then (.ok client, c) else built
  | none => built

/-- The transport over a network that keeps its client. -/
def transport (w : Wire ν) (s : Sender) : Transport (Connector ν) := fun r c =>
  match clientFor s c r.key with
  | (.error e, c) => (.error e, c)
  | (.ok client, c) =>
    let (result, wire) := client.get w r c.wire
    (result, { c with wire })

end Connector

/-- How the requests of a configuration name their sender and how long they may take. -/
def Sender.ofConfig (c : FetchConfig) : Sender := ⟨c.userAgent, c.timeoutMs⟩

end SchemaRelay.Http
