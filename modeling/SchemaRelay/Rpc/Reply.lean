import SchemaRelay.Rpc.Message

/-!
# Replies

A reply bears the id of its request and either a result or a refusal.
-/

namespace SchemaRelay.Rpc

/-- Why a request has no result. -/
structure Refusal where
  code : Int
  message : String
  deriving DecidableEq, Repr

/-- An answer to a request. -/
abbrev Answer := Except Refusal Json

namespace Refusal

/-- The code for an unknown method. -/
def noMethod (method : String) : Refusal := ⟨-32601, method⟩

/-- The code for parameters that do not fit. -/
def badParameters (why : String) : Refusal := ⟨-32602, why⟩

end Refusal

/-- The reply to a request. -/
def reply (id : Id) : Answer → Json
  | .ok result => .obj [("jsonrpc", .str "2.0"), ("id", id.toJson), ("result", result)]
  | .error r =>
    .obj [("jsonrpc", .str "2.0"), ("id", id.toJson),
      ("error", .obj [("code", .ofInt r.code), ("message", .str r.message)])]

end SchemaRelay.Rpc
