import SchemaRelay.Number.Double

/-!
# TOML values

The values that a TOML document can hold. Integers are signed and fit 64 bits; a date or a time keeps its text.
-/

namespace SchemaRelay

/-- A TOML value. -/
inductive Toml where
  | bool (value : Bool)
  | int (value : Int)
  | float (value : Double)
  | str (value : String)
  | dateTime (text : String)
  | list (elements : List Toml)
  | table (fields : List (String × Toml))
  deriving Repr

end SchemaRelay
