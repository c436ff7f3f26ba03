import SchemaRelay.Config.EnvText
import SchemaRelay.Text.Split

/-!
# Settings from the environment

Variables whose names start with `SCHEMA_BRIDGE_`, letter case aside, give settings. The rest of the name in lower case
is the setting's key; two underscores lead into a table. Two names are not settings: the one of the configuration file
and the one of the extension directories, which have their own rules.
-/

namespace SchemaRelay

/-- The variables of an environment, in the order in which they are looked at. -/
abbrev Environment := List (String × String)

namespace Environment

/-- The value of a variable. -/
def get? (env : Environment) (name : String) : Option String := (env.find? (·.1 == name)).map (·.2)

end Environment

namespace Config

/-- How the names of the service's variables start. -/
def variableStart : String := "SCHEMA_BRIDGE_"

/-- The variable that names the configuration file. -/
def fileVariable : String := "SCHEMA_BRIDGE_CONFIG_FILE"

/-- The variable that lists the extension directories. -/
def dirsVariable : String := "SCHEMA_BRIDGE_EXTENSION_DIRS"

/-- ASCII letters in lower case. -/
def lowerAscii (s : List Char) : List Char := s.map Char.toLower

/-- Keys of variables that give no setting of their own. -/
def reservedKeys : List (List Char) := ["config_file".toList, "extension_dirs".toList]

/-- The text with two underscores written as a point. -/
def pointed : List Char → List Char
  | '_' :: '_' :: rest => '.' :: pointed rest
  | c :: rest => c :: pointed rest
  | [] => []

/-- The path of keys that a variable sets, if it gives a setting. -/
def variablePath? (name : String) : Option (List String) :=
  let s := Text.trimChars name.toList
  let start := variableStart.toList
  if lowerAscii (s.take start.length) ≠ lowerAscii start then none
  else
    let key := lowerAscii (s.drop start.length)
    if key ∈ reservedKeys then none
    else
      let parts := Text.pieces (· == '.') (Text.trimChars (pointed key))
      if parts.any List.isEmpty then none else some (parts.map String.ofList)

/-- A value inside the tables that a path leads through. -/
def nested (value : Value) : List String → Value
  | [] => value
  | key :: path => .table [(key, nested value path)]

/-- The settings that an environment gives; a later variable goes over an earlier one. -/
def ofEnvironment (env : Environment) : Fields Value :=
  env.foldl (fun fs (name, text) =>
    match variablePath? name with
    | some (key :: path) => Value.overlay fs [(key, nested (EnvText.parse text) path)]
    | _ => fs) []

/-- The items of a list written with commas, without white space around them; blank items are left out. -/
def splitPaths (list : String) : List String :=
  ((Text.pieces (· == ',') list.toList).map fun p => String.ofList (Text.trimChars p)).filter (· ≠ "")

end Config

end SchemaRelay
