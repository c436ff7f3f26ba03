/-!
# Words

The integers that fit 64 bits, with and without a sign.
-/

namespace SchemaRelay.Word

/-- The number of values of a word with its highest bit clear. -/
def half : Nat := 0x8000000000000000

/-- The number of values of a word. -/
def size : Nat := 0x10000000000000000

/-- An integer of 64 bits with a sign. -/
def fitsSigned (n : Int) : Bool := -(half : Int) ≤ n && n < half

/-- An integer of 64 bits, whether with a sign or without one. -/
def fits (n : Int) : Bool := -(half : Int) ≤ n && n < size

end SchemaRelay.Word
