import SchemaRelay.Fields
import SchemaRelay.Number.Double

/-!
# JSON values

An integer keeps its exact value when it fits 64 bits, signed or unsigned; every other number is a double. Objects
are lists of named values; one read from text has its names in ascending order, each once.
-/

namespace SchemaRelay

/-- A JSON number. -/
inductive JsonNumber where
  | int (value : Int)
  | double (value : Double)
  deriving DecidableEq, Repr

/-- A JSON value. -/
inductive Json where
  | null
  | bool (value : Bool)
  | num (value : JsonNumber)
  | str (value : String)
  | arr (elements : List Json)
  | obj (fields : List (String × Json))
  deriving Repr

namespace JsonNumber

/-- Positive and negative zero. -/
def isZero : JsonNumber → Bool
  | .int n => n == 0
  | .double d => d.isZero

end JsonNumber

namespace Json

/-- The member of an object; nothing for other values. -/
def get? : Json → String → Option Json
  | .obj fields, name => Fields.get? fields name
  | _, _ => none

def str? : Json → Option String
  | .str s => some s
  | _ => none

def arr? : Json → Option (List Json)
  | .arr xs => some xs
  | _ => none

/-- The value at the end of a path of member names. -/
def at? (v : Json) (path : List String) : Option Json := path.foldlM get? v

/-- A JSON integer. -/
def ofInt (n : Int) : Json := .num (.int n)

/-- A natural number. -/
def ofNat (n : Nat) : Json := ofInt n

/-- A list of strings. -/
def strings (xs : List String) : Json := .arr (xs.map .str)

/-- A string, or `null` when there is none. -/
def ofString? : Option String → Json
  | some s => .str s
  | none => .null

/-- An object made of the given members, in the order of their names. -/
def object (members : List (String × Json)) : Json := .obj (Fields.ofList members)

end Json

end SchemaRelay
