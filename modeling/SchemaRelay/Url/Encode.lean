import SchemaRelay.Text.Digits

/-!
# Percent encoding

Characters outside a component's own set, and all that are not ASCII, are written as `%XX` for each of their UTF-8
bytes. The sets differ by component; a percent sign is encoded only where a name is taken literally.
-/

namespace SchemaRelay

namespace Url

/-- Control characters, the delete character among them. -/
def isControl (c : Char) : Bool := c.toNat < 0x20 || c.toNat == 0x7F

/-- Encoded in a fragment. -/
def fragmentSet (c : Char) : Bool := isControl c || c ∈ [' ', '"', '<', '>', '`']

/-- Encoded in a path. -/
def pathSet (c : Char) : Bool := fragmentSet c || c ∈ ['#', '?', '\x7b', '\x7d']

/-- Encoded in a literal name that becomes one segment of a path. -/
def nameSet (c : Char) : Bool := pathSet c || c ∈ ['/', '%', '\\']

/-- Encoded in a query. -/
def querySet (c : Char) : Bool := isControl c || c ∈ [' ', '"', '#', '<', '>']

/-- Encoded in the query of a special URL. -/
def specialQuerySet (c : Char) : Bool := querySet c || c == '\''

/-- Encoded in a user name or a password. -/
def userinfoSet (c : Char) : Bool := pathSet c || c ∈ ['/', ':', ';', '=', '@', '[', '\\', ']', '^', '|']

/-- A byte as `%XX`. -/
def encodedByte (b : UInt8) : List Char :=
  ['%', (Nat.digitChar (b.toNat / 16)).toUpper, (Nat.digitChar (b.toNat % 16)).toUpper]

/-- One character of a component whose encoded set is `set`. -/
def encodedChar (set : Char → Bool) (c : Char) : List Char :=
  if c.toNat < 0x80 && !set c then [c] else (String.utf8EncodeChar c).flatMap encodedByte

/-- The component with the characters of its set encoded. -/
def encode (set : Char → Bool) (s : List Char) : List Char := s.flatMap (encodedChar set)

/-- The bytes of a text in which `%XX` stands for a byte; a percent sign without two digits stands for itself. -/
def decode : List Char → List UInt8
  | [] => []
  | '%' :: a :: b :: rest =>
    match Text.hexValue? a, Text.hexValue? b with
    | some x, some y => UInt8.ofNat (16 * x + y) :: decode rest
    | _, _ => 0x25 :: decode (a :: b :: rest)
  | c :: rest => String.utf8EncodeChar c ++ decode rest

end Url

end SchemaRelay
