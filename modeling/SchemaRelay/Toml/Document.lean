import SchemaRelay.Fields
import SchemaRelay.Toml.Basic

/-!
# Tables of a TOML document

A document grows key by key and header by header. Each table remembers how it came about, which decides who may add
to it: a table is defined once, by a header or by dotted keys, and values are closed.
-/

namespace SchemaRelay.Toml

/-- How a table came about. -/
inductive Origin where
  /-- On the way to another header. -/
  | passed
  /-- By its own header. -/
  | header
  /-- By dotted keys. -/
  | dotted
  deriving DecidableEq, Repr

/-- What a key of a growing document holds. -/
inductive Node where
  | leaf (value : Toml)
  | table (origin : Origin) (fields : List (String × Node))
  | tables (items : List (List (String × Node)))

/-- The fields of a table of a growing document, in the order of their names. -/
abbrev Nodes := List (String × Node)

namespace Node

mutual

/-- The value of a node. -/
def toToml : Node → Toml
  | .leaf v => v
  | .table _ fs => .table (fieldsToToml fs)
  | .tables items => .list (itemsToToml items)

/-- The values of a table's fields. -/
def fieldsToToml : List (String × Node) → List (String × Toml)
  | [] => []
  | (k, n) :: rest => (k, n.toToml) :: fieldsToToml rest

/-- The tables of an array. -/
def itemsToToml : List (List (String × Node)) → List Toml
  | [] => []
  | fs :: rest => .table (fieldsToToml fs) :: itemsToToml rest

end

end Node

namespace Nodes

/-- Changes the table at the end of a path of headers, going into the last table of an array. Tables that are missing on
the way come about by passing. -/
def atHeader (change : Nodes → Option Nodes) : List String → Nodes → Option Nodes
  | [], fs => change fs
  | key :: path, fs =>
    match Fields.get? fs key with
    | none => (atHeader change path []).map fun sub => Fields.insert fs key (.table .passed sub)
    | some (.table origin sub) => (atHeader change path sub).map fun sub => Fields.insert fs key (.table origin sub)
    | some (.tables items) =>
      match items.getLast? with
      | some sub => (atHeader change path sub).map fun sub => Fields.insert fs key (.tables (items.dropLast ++ [sub]))
      | none => none
    | some (.leaf _) => none

/-- Opens the table with the given name by its header. -/
def openTable (key : String) (fs : Nodes) : Option Nodes :=
  match Fields.get? fs key with
  | none => some (Fields.insert fs key (.table .header []))
  | some (.table .passed sub) => some (Fields.insert fs key (.table .header sub))
  | some _ => none

/-- Opens one more table of the array with the given name. -/
def openItem (key : String) (fs : Nodes) : Option Nodes :=
  match Fields.get? fs key with
  | none => some (Fields.insert fs key (.tables [[]]))
  | some (.tables items) => some (Fields.insert fs key (.tables (items ++ [[]])))
  | some _ => none

/-- Sets a dotted key. A table on the way may not have a header of its own. -/
def set (value : Toml) : List String → Nodes → Option Nodes
  | [], _ => none
  | [key], fs =>
    match Fields.get? fs key with
    | none => some (Fields.insert fs key (.leaf value))
    | some _ => none
  | key :: path, fs =>
    match Fields.get? fs key with
    | none => (set value path []).map fun sub => Fields.insert fs key (.table .dotted sub)
    | some (.table .header _) => none
    | some (.table origin sub) => (set value path sub).map fun sub => Fields.insert fs key (.table origin sub)
    | some _ => none

end Nodes

end SchemaRelay.Toml
