/-!
# Bytes as text

`Utf8.decode` reads bytes as UTF-8. When they are no UTF-8, the fault says where the first bad sequence starts, and how
long it is unless the bytes end in the middle of it.
-/

namespace SchemaRelay.Text

/-- Where bytes stop being UTF-8. -/
inductive Utf8Fault where
  /-- A sequence that no further bytes could complete. -/
  | invalid (length index : Nat)
  /-- A sequence that the end cuts off. -/
  | incomplete (index : Nat)
  deriving DecidableEq, Repr

/-- The text of a fault. -/
def Utf8Fault.message : Utf8Fault → String
  | .invalid length index => s!"invalid utf-8 sequence of {length} bytes from index {index}"
  | .incomplete index => s!"incomplete utf-8 byte sequence from index {index}"

namespace Utf8

/-- The bytes that follow a first byte: how many, and the bounds of the first of them. -/
def followers? (b : UInt8) : Option (Nat × UInt8 × UInt8) :=
  if b < 0x80 then some (0, 0x80, 0xBF)
  else if b < 0xC2 then none
  else if b < 0xE0 then some (1, 0x80, 0xBF)
  else if b = 0xE0 then some (2, 0xA0, 0xBF)
  else if b = 0xED then some (2, 0x80, 0x9F)
  else if b < 0xF0 then some (2, 0x80, 0xBF)
  else if b = 0xF0 then some (3, 0x90, 0xBF)
  else if b < 0xF4 then some (3, 0x80, 0xBF)
  else if b = 0xF4 then some (3, 0x80, 0x8F)
  else none

/-- How many of the wanted bytes come in front: the first within the bounds, the others within those of all. -/
def goodFollowers : Nat → UInt8 → UInt8 → List UInt8 → Nat
  | n + 1, low, high, b :: rest => if low ≤ b ∧ b ≤ high then 1 + goodFollowers n 0x80 0xBF rest else 0
  | _, _, _, _ => 0

/-- The first fault of bytes that start at an index. Bytes without a fault would go on at their end. -/
def firstFault (index : Nat) : List UInt8 → Utf8Fault
  | [] => .incomplete index
  | b :: rest =>
    match followers? b with
    | none => .invalid 1 index
    | some (n, low, high) =>
      let good := goodFollowers n low high rest
      if good = n then firstFault (index + 1 + n) (rest.drop n)
      else if good = rest.length then .incomplete index
      else .invalid (1 + good) index
termination_by bytes => bytes.length
decreasing_by simp only [List.length_drop, List.length_cons]; omega

/-- The text that bytes write. -/
def decode (bytes : List UInt8) : Except Utf8Fault String :=
  match String.fromUTF8? ⟨bytes.toArray⟩ with
  | some s => .ok s
  | none => .error (firstFault 0 bytes)

end Utf8

end SchemaRelay.Text
