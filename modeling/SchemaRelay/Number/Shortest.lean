import SchemaRelay.Number.Double

/-!
# The shortest decimal of a double

Among the decimals that read back as a given double, the one with the fewest digits, and of those the nearest.
`Double.shortest` tries decimal grids of growing fineness: on each, the two neighbours of the value are the only
candidates, and the first grid with a candidate inside the rounding interval decides.
-/

namespace SchemaRelay

/-- The decimal `digits · 10 ^ exp`. -/
structure Decimal where
  digits : Nat
  exp : Int
  deriving DecidableEq, Repr

namespace Decimal

/-- Powers of ten as fractions. -/
def pow10 : Int → Nat × Nat
  | .ofNat k => (Nat.pow 10 k, 1)
  | .negSucc k => (1, Nat.pow 10 (k + 1))

/-- The same decimal without zeros at the end of its digits. `fuel` bounds the number of zeros. -/
def stripZeros : Nat → Decimal → Decimal
  | 0, d => d
  | fuel + 1, d =>
    if d.digits ≠ 0 ∧ d.digits % 10 = 0 then stripZeros fuel ⟨d.digits / 10, d.exp + 1⟩ else d

end Decimal

namespace Double

/-- The reals that round to `mant · 2 ^ exp`, as numerators over one denominator: low end, value, high end. -/
structure Interval where
  low : Nat
  value : Nat
  high : Nat
  den : Nat
  closed : Bool

/-- The rounding interval of a positive double: half a step on either side, a quarter below a power of two, with
its ends when the mantissa is even. -/
def interval (mant : Nat) (exp : Int) : Interval :=
  let below := if mant = fullMant ∧ minExp < exp then 1 else 2
  let num := 4 * mant
  match exp - 2 with
  | .ofNat k => let scale := Nat.pow 2 k
    ⟨(num - below) * scale, num * scale, (num + 2) * scale, 1, mant % 2 == 0⟩
  | .negSucc k => ⟨num - below, num, num + 2, Nat.pow 2 (k + 1), mant % 2 == 0⟩

/-- The fraction `num / den` lies in the interval. -/
def Interval.contains (iv : Interval) (num den : Nat) : Bool :=
  let cmp (a b : Nat) : Bool := if iv.closed then a ≤ b else a < b
  cmp (iv.low * den) (num * iv.den) && cmp (num * iv.den) (iv.high * den)

/-- The number of decimal digits before the point; zero or less for a value below one tenth. -/
def Interval.places (iv : Interval) : Int :=
  (Nat.toDigits 10 (iv.value * Nat.pow 10 400 / iv.den)).length - 400

/-- The candidate on the grid of step `10 ^ exp`: a neighbour of the value inside the interval, the nearer of two,
the even one when they are equally near. -/
def Interval.candidate? (iv : Interval) (exp : Int) : Option Decimal :=
  let (un, ud) := Decimal.pow10 exp
  let down := iv.value * ud / (iv.den * un)
  let up := down + 1
  let ok (d : Nat) : Bool := iv.contains (d * un) ud
  -- Twice the value in grid steps, against `down + up`.
  let twice := 2 * iv.value * ud
  let middle := (down + up) * (iv.den * un)
  match 0 < down && ok down, ok up with
  | true, true =>
    some ⟨if twice < middle then down else if middle < twice then up else down + down % 2, exp⟩
  | true, false => some ⟨down, exp⟩
  | false, true => some ⟨up, exp⟩
  | false, false => none

/-- The first grid with a candidate, over the digit counts `18 - n, …, 17`. -/
def Interval.search (iv : Interval) (places : Int) : Nat → Option Decimal
  | 0 => none
  | n + 1 =>
    match iv.candidate? (places - (17 - n : Nat)) with
    | some d => some d
    | none => iv.search places n

/-- The shortest decimal that reads back as `mant · 2 ^ exp`. -/
def shortest (mant : Nat) (exp : Int) : Decimal :=
  if mant = 0 then ⟨0, 0⟩
  else
    let iv := interval mant exp
    ((iv.search iv.places 17).getD ⟨0, 0⟩).stripZeros 20

end Double

end SchemaRelay
