import SchemaRelay.Cache.Store

/-!
# Stores that do not work

A store that has lost its contents, or refuses what it is given, behind which the store itself stays as it is.
-/

namespace SchemaRelay

/-- What a store does not do. -/
structure Impairment where
  losesContent : Bool := false
  rejectsWrites : Bool := false
  deriving DecidableEq, Repr

/-- A store that does not do some things. -/
def Store.impaired {σ : Type} (i : Impairment) (s : Store σ) : Store σ where
  etag? := s.etag?
  schema? uri st := if i.losesContent then (none, st) else s.schema? uri st
  put uri etag content st :=
    if i.rejectsWrites then (.error (.invalidInput "cache is read-only"), st) else s.put uri etag content st

end SchemaRelay
