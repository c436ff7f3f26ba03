import SchemaRelay.Fetch.Outcome
import SchemaRelay.Fetch.World

/-!
# Fetching a schema

A fetch asks the server and keeps the cache up to date; the cache stands in where the server has no document.

| answer | result |
| --- | --- |
| a document | its text, which is cached if it came with an ETag |
| not modified, content cached | the cached content |
| not modified, content lost | the outcome of one more request, now without condition |
| anything else, content cached | the cached content |
| anything else | a failure with a diagnostic |
-/

namespace SchemaRelay.Fetch

variable {σ τ : Type}

/-- The condition that makes a request for a document known by `etag`; none without a usable one. -/
def condition (etag : Option String) : List Http.Header :=
  match etag with
  | some e => if e ≠ "" ∧ Http.Header.isSendable e then [⟨"if-none-match", Http.Header.bytes e⟩] else []
  | none => []

/-- The request for a URI. -/
def requestOf (c : FetchConfig) (uri : String) (etag : Option String) : Http.Request :=
  ⟨uri, c.maxRedirects, condition etag, c.http⟩

/-- Requests a URI. -/
def ask (t : Http.Transport τ) (c : FetchConfig) (uri : String) (etag : Option String) :
    StateM (World σ τ) Outcome := do
  return .ofAnswer (← World.send t (requestOf c uri etag))

/-- Caches a document that has an ETag. That the cache refuses it is no failure. -/
def remember (s : Store σ) (uri : String) (r : Http.Response) : StateM (World σ τ) Unit := do
  match r.etag? with
  | some etag => let _ ← World.put s uri etag r.body
  | none => return ()

/-- The content of a URI that has an ETag. -/
def cached? (s : Store σ) (uri : String) : StateM (World σ τ) (Option String) := do
  match ← World.etag? s uri with
  | some _ => World.schema? s uri
  | none => return none

/-- Requests a URI without condition, after the content for which it was not modified turned out to be lost. -/
def again (s : Store σ) (t : Http.Transport τ) (c : FetchConfig) (uri : String) :
    StateM (World σ τ) (Except Error String) := do
  match ← ask t c uri none with
  | .fresh r =>
    remember s uri r
    return .ok r.body
  | .notModified => return .error (.fetchFailed (Failure.remote 304 "").diagnostic)
  | .failed failure => return .error (.fetchFailed failure.diagnostic)

/-- The current content of the schema at a URI. -/
def content (s : Store σ) (t : Http.Transport τ) (c : FetchConfig) (uri : String) :
    StateM (World σ τ) (Except Error String) := do
  let etag ← World.etag? s uri
  match ← ask t c uri etag with
  | .fresh r =>
    remember s uri r
    return .ok r.body
  | .notModified =>
    match ← World.schema? s uri with
    | some text => return .ok text
    | none => again s t c uri
  | .failed failure =>
    match ← cached? s uri with
    | some text => return .ok text
    | none => return .error (.fetchFailed failure.diagnostic)

end SchemaRelay.Fetch
