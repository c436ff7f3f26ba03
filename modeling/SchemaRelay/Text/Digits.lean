/-!
# Digits

The values of digits, and the numbers that they write.
-/

namespace SchemaRelay.Text

/-- The value of a hexadecimal digit of either case. -/
def hexValue? (c : Char) : Option Nat :=
  if '0' ≤ c ∧ c ≤ '9' then some (c.toNat - 48)
  else if 'a' ≤ c ∧ c ≤ 'f' then some (c.toNat - 87)
  else if 'A' ≤ c ∧ c ≤ 'F' then some (c.toNat - 55)
  else none

/-- A hexadecimal digit of either case. -/
def isHex (c : Char) : Bool := (hexValue? c).isSome

/-- The number that digits of a base write. -/
def numberOf (base : Nat) (ds : List Char) : Nat := ds.foldl (fun n d => base * n + (hexValue? d).getD 0) 0

/-- The number that decimal digits write. -/
def decimal (ds : List Char) : Nat := numberOf 10 ds

/-- The character whose code hexadecimal digits write; nothing for surrogates and beyond the last code point. -/
def codePoint? (ds : List Char) : Option Char :=
  let n := numberOf 16 ds
  if ds.all isHex ∧ n < 0x110000 ∧ ¬(0xD800 ≤ n ∧ n < 0xE000) then some (Char.ofNat n) else none

end SchemaRelay.Text
