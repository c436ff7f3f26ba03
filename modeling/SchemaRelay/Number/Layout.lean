import SchemaRelay.Number.Shortest

/-!
# Numbers as text

`Layout` holds what a format decides about the text of a double once its digits are known: where positional
notation ends, whether a whole number keeps a decimal, and how an exponent is marked.
-/

namespace SchemaRelay

/-- A format's decisions on the text of a double. -/
structure Layout where
  /-- Whether a value `0.d₁d₂… · 10 ^ places` is written positionally. -/
  positional : Int → Bool
  /-- A whole number keeps a `.0`. -/
  pointZero : Bool
  /-- A positive exponent has a plus sign. -/
  plusSign : Bool

namespace Layout

/-- JSON documents: positional from `1e-5` up to `1e16`, at least one decimal, a signed exponent. -/
def json : Layout := ⟨fun places => -4 ≤ places && places ≤ 16, true, true⟩

/-- Messages: always positional, whole numbers without decimals. -/
def plain : Layout := ⟨fun _ => true, false, false⟩

/-- `digits · 10 ^ exp` in positional notation. -/
def positionalText (l : Layout) (ds : List Char) (exp : Int) : List Char :=
  match exp with
  | .ofNat k => ds ++ List.replicate k '0' ++ (if l.pointZero then ['.', '0'] else [])
  | .negSucc k =>
    let frac := k + 1
    if frac < ds.length then ds.take (ds.length - frac) ++ '.' :: ds.drop (ds.length - frac)
    else '0' :: '.' :: List.replicate (frac - ds.length) '0' ++ ds

/-- `digits · 10 ^ exp` with one digit before the point and an exponent. -/
def scientificText (l : Layout) (ds : List Char) (exp : Int) : List Char :=
  let e := exp + ds.length - 1
  let head := match ds with
    | [] => ['0']
    | [d] => [d]
    | d :: rest => d :: '.' :: rest
  let sign := if e < 0 then ['-'] else if l.plusSign then ['+'] else []
  head ++ 'e' :: sign ++ Nat.toDigits 10 e.natAbs

/-- The text of a double. -/
def text (l : Layout) : Double → List Char
  | .nan => ['N', 'a', 'N']
  | .infinite negative => (if negative then ['-'] else []) ++ ['i', 'n', 'f']
  | .finite negative mant exp =>
    let sign := if negative then ['-'] else []
    if mant = 0 then sign ++ '0' :: (if l.pointZero then ['.', '0'] else [])
    else
      let d := Double.shortest mant exp
      let ds := Nat.toDigits 10 d.digits
      sign ++ (if l.positional (d.exp + ds.length) then l.positionalText ds d.exp else l.scientificText ds d.exp)

end Layout

end SchemaRelay
