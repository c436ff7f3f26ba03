import SchemaRelay.Fields
import SchemaRelay.Number.Layout
import SchemaRelay.Text.Quoted
import SchemaRelay.Toml.Basic

/-!
# Values that sources give to settings

A source of settings gives a value of some kind to each of its keys, and a setting wants one kind; nothing is converted
between kinds. `Mismatch` is a value that is not wanted, and its text.
-/

namespace SchemaRelay.Config

/-- A value given by a source. -/
inductive Value where
  | bool (value : Bool)
  | unsigned (value : Nat)
  | signed (value : Int)
  | float (value : Double)
  | text (value : String)
  | list (elements : List Value)
  | table (fields : List (String × Value))
  deriving Repr

namespace Value

mutual

/-- The value that a document gives. A date counts as a table. -/
def ofToml : Toml → Value
  | .bool b => .bool b
  | .int n => .signed n
  | .float d => .float d
  | .str s => .text s
  | .dateTime _ => .table []
  | .list xs => .list (ofElements xs)
  | .table fs => .table (ofFields fs)

/-- The values of an array. -/
def ofElements : List Toml → List Value
  | [] => []
  | x :: xs => ofToml x :: ofElements xs

/-- The values of a table. -/
def ofFields : List (String × Toml) → List (String × Value)
  | [] => []
  | (k, v) :: fs => (k, ofToml v) :: ofFields fs

end

/-- What a value is, in a message. -/
def describe : Value → String
  | .bool b => s!"bool {b}"
  | .unsigned n => s!"unsigned int `{n}`"
  | .signed n => s!"signed int `{n}`"
  | .float d => s!"float `{String.ofList (Layout.plain.text d)}`"
  | .text s => s!"string {Text.quoted s}"
  | .list _ => "sequence"
  | .table _ => "map"

mutual

/-- The value of a name that had `old` and is given another one. Tables are put over each other. -/
def combine (old : Option Value) : Value → Value
  | .table upper =>
    match old with
    | some (.table lower) => .table (overlay lower upper)
    | _ => .table upper
  | new => new

/-- Puts the fields of a later table over those of an earlier one. -/
def overlay (lower : List (String × Value)) : List (String × Value) → List (String × Value)
  | [] => lower
  | (k, v) :: rest => overlay (Fields.insert lower k (combine (Fields.get? lower k) v)) rest

end

end Value

/-- A value of another kind than its setting wants. -/
inductive Mismatch where
  | kind (found : Value) (wanted : String)
  | negative (found : Int) (wanted : String)
  deriving Repr

/-- The text of a mismatch. -/
def Mismatch.message : Mismatch → String
  | .kind found wanted => s!"invalid type: found {found.describe}, expected {wanted}"
  | .negative found wanted => s!"invalid value signed int `{found}`, expected {wanted}"

/-! ## Wanted kinds -/

namespace Value

def asText (wanted : String) : Value → Except Mismatch String
  | .text s => .ok s
  | v => .error (.kind v wanted)

def asBool : Value → Except Mismatch Bool
  | .bool b => .ok b
  | v => .error (.kind v "a boolean")

/-- A natural number; `wanted` names its kind. -/
def asWord (wanted : String) : Value → Except Mismatch Nat
  | .unsigned n => .ok n
  | .signed n => if n < 0 then .error (.negative n wanted) else .ok n.toNat
  | v => .error (.kind v wanted)

end Value

end SchemaRelay.Config
