import SchemaRelay.Cache.Store
import SchemaRelay.Http.Transport

/-!
# What a fetch acts on

A fetch talks to a store and to a transport, each with a state of its own, and every call it makes is noted in the
order of the calls. Nothing but these calls can change a store or be answered by a transport.
-/

namespace SchemaRelay

/-- A call made by a fetch. -/
inductive Call where
  | etag (uri : String)
  | schema (uri : String)
  | put (uri etag content : String)
  | request (request : Http.Request)
  deriving DecidableEq, Repr

/-- The states of a store and of a transport, and the calls made so far. -/
structure World (σ τ : Type) where
  store : σ
  transport : τ
  calls : List Call
  deriving Repr

namespace World

variable {σ τ : Type}

/-- Asks a store for the ETag of a URI. -/
def etag? (s : Store σ) (uri : String) : StateM (World σ τ) (Option String) := fun w =>
  let (answer, store) := s.etag? uri w.store
  (answer, { w with store, calls := w.calls ++ [.etag uri] })

/-- Asks a store for the content of a URI. -/
def schema? (s : Store σ) (uri : String) : StateM (World σ τ) (Option String) := fun w =>
  let (answer, store) := s.schema? uri w.store
  (answer, { w with store, calls := w.calls ++ [.schema uri] })

/-- Gives a store an ETag and a content. -/
def put (s : Store σ) (uri etag content : String) : StateM (World σ τ) (Except Error Unit) := fun w =>
  let (answer, store) := s.put uri etag content w.store
  (answer, { w with store, calls := w.calls ++ [.put uri etag content] })

/-- Sends a request. -/
def send (t : Http.Transport τ) (r : Http.Request) :
    StateM (World σ τ) (Except Http.TransportError Http.Response) := fun w =>
  let (answer, transport) := t r w.transport
  (answer, { w with transport, calls := w.calls ++ [.request r] })

end World

end SchemaRelay
