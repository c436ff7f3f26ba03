/-!
# Header fields

A header field has a name, which is compared without letter case, and a value of bytes. A value reads as text when all
its bytes are visible ASCII, spaces or tabs (`text?`). A text can be sent as a value when it holds no control character
but tabs (`isSendable`); what reads as text can be sent.
-/

namespace SchemaRelay.Http

/-- A header field. -/
structure Header where
  name : String
  value : List UInt8
  deriving DecidableEq, Repr

namespace Header

/-- A visible ASCII byte, a space or a tab. -/
def isTextByte (b : UInt8) : Bool := b == 9 || (32 ≤ b && b < 127)

/-- The text of a value, if it reads as text. -/
def text? (value : List UInt8) : Option String :=
  if value.all isTextByte then some (String.ofList (value.map fun b => Char.ofNat b.toNat)) else none

/-- A text without control characters other than tabs. -/
def isSendable (s : String) : Bool := s.toList.all fun c => c == '\t' || (32 ≤ c.toNat && c.toNat ≠ 127)

/-- The bytes of a text. -/
def bytes (s : String) : List UInt8 := s.toList.flatMap String.utf8EncodeChar

/-- A name in lower case. -/
def lower (name : String) : List Char := name.toList.map Char.toLower

/-- The value of the first field with a name. -/
def first? (headers : List Header) (name : String) : Option (List UInt8) :=
  (headers.find? fun h => lower h.name == lower name).map (·.value)

end Header

end SchemaRelay.Http
