/-!
# Double precision numbers

A double is `± mant · 2 ^ exp` with a mantissa of at most 53 bits, an infinity, or not a number. `Double.ofDecimal`
rounds a decimal to the nearest double, a tie going to the even mantissa, in exact arithmetic on natural numbers.
-/

namespace SchemaRelay

/-- A number of the binary format with 53 bits of precision. -/
inductive Double where
  | finite (negative : Bool) (mant : Nat) (exp : Int)
  | infinite (negative : Bool)
  | nan
  deriving DecidableEq, Repr

namespace Double

/-- The least binary exponent. -/
def minExp : Int := -1074

/-- The greatest binary exponent. -/
def maxExp : Int := 971

/-- The least mantissa of full precision. -/
def fullMant : Nat := 0x10000000000000

/-- Zero with the given sign. -/
def zero (negative : Bool) : Double := .finite negative 0 minExp

/-- Both zeros. -/
def isZero : Double → Bool
  | .finite _ m _ => m == 0
  | _ => false

/-- `num / den · 2 ^ (-q)` as a fraction of natural numbers. -/
def scaled (num den : Nat) (q : Int) : Nat × Nat :=
  match q with
  | .ofNat k => (num, den * Nat.pow 2 k)
  | .negSucc k => (num * Nat.pow 2 (k + 1), den)

/-- The nearest natural number to a fraction, the even one of two. -/
def roundDiv (num den : Nat) : Nat :=
  let q := num / den
  let r := num % den
  if 2 * r < den then q else if den < 2 * r then q + 1 else q + q % 2

/-- The exponent at which `num / den` has a mantissa of 53 bits, or the least exponent when it is too small. -/
def exponentFor (num den : Nat) : Int :=
  let low := max ((Nat.log2 num : Int) - Nat.log2 den - 53) minExp
  let (n, d) := scaled num den low
  if n / d < 2 * fullMant then low else low + 1

/-- The double nearest to the positive fraction `num / den`. -/
def ofFraction (negative : Bool) (num den : Nat) : Double :=
  let q := exponentFor num den
  let (n, d) := scaled num den q
  let m := roundDiv n d
  let (m, q) := if m = 2 * fullMant then (fullMant, q + 1) else (m, q)
  if maxExp < q then .infinite negative else .finite negative m q

/-- The double nearest to `± digits · 10 ^ exp10`. Decimals far outside the range are decided by their size. -/
def ofDecimal (negative : Bool) (digits : Nat) (exp10 : Int) : Double :=
  if digits = 0 then zero negative
  else
    let size := exp10 + (Nat.toDigits 10 digits).length
    if 310 < size then .infinite negative
    else if size < -330 then zero negative
    else match exp10 with
      | .ofNat k => ofFraction negative (digits * Nat.pow 10 k) 1
      | .negSucc k => ofFraction negative digits (Nat.pow 10 (k + 1))

/-- The double nearest to an integer. -/
def ofInt (n : Int) : Double := ofDecimal (n < 0) n.natAbs 0

end Double

end SchemaRelay
