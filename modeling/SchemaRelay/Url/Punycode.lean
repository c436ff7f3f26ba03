/-!
# Punycode

A label of a domain name with characters beyond ASCII is written in ASCII: its ASCII characters, a hyphen, and a
number for each of the others that tells the character and its place.
-/

namespace SchemaRelay.Url.Punycode

/-- The next bias after a delta that covers `points` characters. -/
def adapt (delta points : Nat) (first : Bool) : Nat :=
  let d := if first then delta / 700 else delta / 2
  go 32 (d + d / points) 0
where
  /-- Divides until the delta is small, at most `fuel` times. -/
  go : Nat → Nat → Nat → Nat
    | 0, d, k => k + 36 * d / (d + 38)
    | fuel + 1, d, k => if 455 < d then go fuel (d / 35) (k + 36) else k + 36 * d / (d + 38)

/-- The threshold of the digit at place `k`. -/
def threshold (k bias : Nat) : Nat := if k ≤ bias then 1 else if bias + 26 ≤ k then 26 else k - bias

/-- A digit below 36. -/
def digit (n : Nat) : Char := if n < 26 then Char.ofNat (97 + n) else Char.ofNat (22 + n)

/-- The value of a digit. -/
def digitValue? (c : Char) : Option Nat :=
  if 'a' ≤ c ∧ c ≤ 'z' then some (c.toNat - 97)
  else if 'A' ≤ c ∧ c ≤ 'Z' then some (c.toNat - 65)
  else if '0' ≤ c ∧ c ≤ '9' then some (c.toNat - 22)
  else none

/-- A number as digits of variable weight, at most `fuel` of them. -/
def number (bias : Nat) : Nat → Nat → Nat → List Char
  | 0, _, _ => []
  | fuel + 1, k, q =>
    let t := threshold k bias
    if q < t then [digit q] else digit (t + (q - t) % (36 - t)) :: number bias fuel (k + 36) ((q - t) / (36 - t))

/-- What the encoder carries from character to character. -/
structure State where
  delta : Nat
  bias : Nat
  handled : Nat
  out : List Char

/-- The code point `n` is next: every smaller one counts a step, every occurrence writes the steps so far. -/
def passOver (n basic : Nat) (st : State) (cs : List Nat) : State :=
  cs.foldl (fun st c =>
    if c < n then { st with delta := st.delta + 1 }
    else if c = n then
      ⟨0, adapt st.delta (st.handled + 1) (st.handled == basic), st.handled + 1,
        st.out ++ number st.bias 32 36 st.delta⟩
    else st) st

/-- The code points beyond ASCII in ascending order, each once. -/
def distinct (cs : List Nat) : List Nat := ((cs.filter (0x80 ≤ ·)).mergeSort).eraseReps

/-- The label in ASCII. -/
def encode (label : List Char) : List Char :=
  let cs := label.map Char.toNat
  let basic := label.filter (·.toNat < 0x80)
  let start : State := ⟨0, 72, basic.length, if basic.isEmpty then [] else basic ++ ['-']⟩
  let (_, st) := (distinct cs).foldl (fun (n, st) m =>
    let st := passOver m basic.length { st with delta := st.delta + (m - n) * (st.handled + 1) } cs
    (m + 1, { st with delta := st.delta + 1 })) (0x80, start)
  st.out

/-- The number at the front: its value, and the rest. -/
def readNumber (bias : Nat) (k weight i : Nat) : List Char → Option (Nat × List Char)
  | [] => none
  | c :: rest =>
    match digitValue? c with
    | none => none
    | some d =>
      let i := i + d * weight
      let t := threshold k bias
      if d < t then some (i, rest)
      else if 0x100000000 ≤ i then none
      else readNumber bias (k + 36) (weight * (36 - t)) i rest

/-- Puts the characters of the numbers into `out`; at most `fuel` of them. -/
def insertAll : Nat → Nat → Nat → Nat → List Char → List Char → Option (List Char)
  | _, _, _, _, out, [] => some out
  | 0, _, _, _, _, _ :: _ => none
  | fuel + 1, n, i, bias, out, s =>
    match readNumber bias 36 1 i s with
    | none => none
    | some (j, rest) =>
      let size := out.length + 1
      let n := n + j / size
      let place := j % size
      if n < 0x80 ∨ 0x110000 ≤ n ∨ (0xD800 ≤ n ∧ n < 0xE000) then none
      else insertAll fuel n (place + 1) (adapt (j - i) size (i == 0))
        (out.take place ++ Char.ofNat n :: out.drop place) rest

/-- The label written by ASCII text, nothing for text that is no encoding. -/
def decode? (s : List Char) : Option (List Char) :=
  let tail := (s.reverse.takeWhile (· != '-')).reverse
  let basic := (s.take (s.length - tail.length)).dropLast
  if basic.any (0x80 ≤ ·.toNat) then none else insertAll s.length 0x80 0 72 basic tail

end SchemaRelay.Url.Punycode
