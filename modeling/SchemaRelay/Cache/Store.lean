import SchemaRelay.Error

/-!
# What a fetch needs of a cache

A store answers the ETag and the content of a URI and takes new ones. It is given by its three calls on a state, each
of which may change the state, so that any implementation can stand behind it.
-/

namespace SchemaRelay

/-- A cache as a fetch sees it, over states of type `σ`. -/
structure Store (σ : Type) where
  /-- The ETag of a URI. -/
  etag? : String → σ → Option String × σ
  /-- The content of a URI. -/
  schema? : String → σ → Option String × σ
  /-- Takes the ETag and the content of a URI. -/
  put : String → String → String → σ → Except Error Unit × σ

end SchemaRelay
