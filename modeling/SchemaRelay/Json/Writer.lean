import SchemaRelay.Json.Basic
import SchemaRelay.Number.Layout

/-!
# JSON text

Two layouts of the same value: `Json.compact` on one line without spaces, and `Json.pretty` with one member or element
a line, indented by two spaces a level. Characters are written as they are except for quotes, backslashes and controls.
-/

namespace SchemaRelay

namespace JsonString

/-- The two hexadecimal digits of a control character. -/
def hexPair (n : Nat) : List Char := [Nat.digitChar (n / 16), Nat.digitChar (n % 16)]

/-- One character inside a string. -/
def escaped (c : Char) : List Char :=
  if c = '"' then ['\\', '"']
  else if c = '\\' then ['\\', '\\']
  else if c = '\x08' then ['\\', 'b']
  else if c = '\x0c' then ['\\', 'f']
  else if c = '\n' then ['\\', 'n']
  else if c = '\r' then ['\\', 'r']
  else if c = '\t' then ['\\', 't']
  else if c.toNat < 0x20 then ['\\', 'u', '0', '0'] ++ hexPair c.toNat
  else [c]

/-- A string with its quotes. -/
def write (s : String) : List Char := '"' :: s.toList.flatMap escaped ++ ['"']

end JsonString

namespace JsonNumber

/-- The text of a number. -/
def write : JsonNumber → List Char
  | .int n => (if n < 0 then ['-'] else []) ++ Nat.toDigits 10 n.natAbs
  | .double d => Layout.json.text d

end JsonNumber

namespace Json

/-- The name of a truth value. -/
def boolText (b : Bool) : List Char := if b then ['t', 'r', 'u', 'e'] else ['f', 'a', 'l', 's', 'e']

def nullText : List Char := ['n', 'u', 'l', 'l']

mutual

/-- The characters of a value on one line. -/
def compactChars : Json → List Char
  | .null => nullText
  | .bool b => boolText b
  | .num n => n.write
  | .str s => JsonString.write s
  | .arr xs => '[' :: compactElements xs
  | .obj fs => '\x7b' :: compactMembers fs

/-- The elements of an array and its closing bracket. -/
def compactElements : List Json → List Char
  | [] => [']']
  | [x] => compactChars x ++ [']']
  | x :: xs => compactChars x ++ ',' :: compactElements xs

/-- The members of an object and its closing brace. -/
def compactMembers : List (String × Json) → List Char
  | [] => ['\x7d']
  | [(k, v)] => JsonString.write k ++ ':' :: compactChars v ++ ['\x7d']
  | (k, v) :: fs => JsonString.write k ++ ':' :: compactChars v ++ ',' :: compactMembers fs

end

/-- A line break and the indentation of a level. -/
def newline (level : Nat) : List Char := '\n' :: List.replicate (2 * level) ' '

mutual

/-- The characters of a value whose first line stands at `level`. -/
def prettyChars (level : Nat) : Json → List Char
  | .null => nullText
  | .bool b => boolText b
  | .num n => n.write
  | .str s => JsonString.write s
  | .arr xs => if xs.isEmpty then ['[', ']'] else '[' :: newline (level + 1) ++ prettyElements level xs
  | .obj fs => if fs.isEmpty then ['\x7b', '\x7d'] else '\x7b' :: newline (level + 1) ++ prettyMembers level fs

/-- The elements of an array at `level` and its closing bracket. -/
def prettyElements (level : Nat) : List Json → List Char
  | [] => [']']
  | [x] => prettyChars (level + 1) x ++ newline level ++ [']']
  | x :: xs => prettyChars (level + 1) x ++ ',' :: newline (level + 1) ++ prettyElements level xs

/-- The members of an object at `level` and its closing brace. -/
def prettyMembers (level : Nat) : List (String × Json) → List Char
  | [] => ['\x7d']
  | [(k, v)] => JsonString.write k ++ ':' :: ' ' :: prettyChars (level + 1) v ++ newline level ++ ['\x7d']
  | (k, v) :: fs =>
    JsonString.write k ++ ':' :: ' ' :: prettyChars (level + 1) v ++ ',' :: newline (level + 1) ++ prettyMembers level fs

end

/-- The value on one line. -/
def compact (v : Json) : String := String.ofList v.compactChars

/-- The value over several lines. -/
def pretty (v : Json) : String := String.ofList (v.prettyChars 0)

end Json

end SchemaRelay
