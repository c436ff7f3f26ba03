import SchemaRelay.Json.Writer
import SchemaRelay.Text.Quoted

/-!
# Typed values out of JSON

Readers from JSON to the types of the service, and the texts of what they refuse. A record is read from an object,
unknown members ignored, or from an array of its fields in order. Members are looked at in the order of their names,
so the first bad one in that order is reported; a missing field is reported only when all that is there is good.
-/

namespace SchemaRelay

/-- Why a JSON value is not of the wanted type. -/
inductive DecodeError where
  | invalidType (found : Json) (wanted : String)
  | negative (found : Int) (wanted : String)
  | missingField (name : String)
  | tooFewElements (present : Nat) (record : String) (fields : Nat)
  | tooManyElements (present : Nat)
  deriving Repr

namespace DecodeError

/-- What a value is, in a message. -/
def describe : Json → String
  | .null => "null"
  | .bool b => s!"boolean `{b}`"
  | .num (.int n) => s!"integer `{n}`"
  | .num (.double d) => s!"floating point `{String.ofList (Layout.json.text d)}`"
  | .str s => s!"string {Text.quoted s}"
  | .arr _ => "sequence"
  | .obj _ => "map"

/-- The text of the refusal. -/
def message : DecodeError → String
  | .invalidType found wanted => s!"invalid type: {describe found}, expected {wanted}"
  | .negative found wanted => s!"invalid value: integer `{found}`, expected {wanted}"
  | .missingField name => s!"missing field `{name}`"
  | .tooFewElements present record fields =>
    let plural := if fields = 1 then "" else "s"
    s!"invalid length {present}, expected struct {record} with {fields} element{plural}"
  | .tooManyElements present => s!"invalid length {present}, expected fewer elements in array"

end DecodeError

/-- A reader of values of type `α`. -/
abbrev Decoder (α : Type) := Json → Except DecodeError α

namespace Decoder

variable {α : Type}

def string : Decoder String
  | .str s => .ok s
  | v => .error (.invalidType v "a string")

/-- A path, which is a string that messages name otherwise. -/
def path : Decoder String
  | .str s => .ok s
  | v => .error (.invalidType v "path string")

def bool : Decoder Bool
  | .bool b => .ok b
  | v => .error (.invalidType v "a boolean")

/-- A natural number of 64 bits; `wanted` names its kind. -/
def word (wanted : String) : Decoder Nat
  | .num (.int n) => if n < 0 then .error (.negative n wanted) else .ok n.toNat
  | v => .error (.invalidType v wanted)

/-- `null` or a value. -/
def nullable (read : Decoder α) : Decoder (Option α)
  | .null => .ok none
  | v => (read v).map some

/-- An array. -/
def list (read : Decoder α) : Decoder (List α)
  | .arr xs => xs.mapM read
  | v => .error (.invalidType v "a sequence")

/-- An object. -/
def fields : Decoder (Fields Json)
  | .obj fs => .ok fs
  | v => .error (.invalidType v "a map")

/-- The member of an object, if it is there. -/
def member? (fs : Fields Json) (name : String) (read : Decoder α) : Except DecodeError (Option α) :=
  match fs.get? name with
  | some v => (read v).map some
  | none => .ok none

/-- A field that has to be there. -/
def require (name : String) (value : Option α) : Except DecodeError α :=
  match value with
  | some a => .ok a
  | none => .error (.missingField name)

/-- The element of a record that is written as an array. -/
def element? (xs : List Json) (index : Nat) (read : Decoder α) : Except DecodeError (Option α) :=
  match xs[index]? with
  | some v => (read v).map some
  | none => .ok none

/-- An element that has to be there. -/
def element (record : String) (size : Nat) (xs : List Json) (index : Nat) (read : Decoder α) : Except DecodeError α :=
  match xs[index]? with
  | some v => read v
  | none => .error (.tooFewElements index record size)

/-- A record has no more elements than fields. -/
def sizeAtMost (size : Nat) (xs : List Json) : Except DecodeError Unit :=
  if size < xs.length then .error (.tooManyElements xs.length) else .ok ()

end Decoder

end SchemaRelay
