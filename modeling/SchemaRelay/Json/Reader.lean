import SchemaRelay.Json.Basic
import SchemaRelay.Number.Word
import SchemaRelay.Text.Digits

/-!
# Reading JSON text

`Json.parse?` reads one value and nothing but white space around it. The grammar is the strict one: no comments, no
trailing commas, no raw control characters in strings, no lone surrogates in escapes, no number beyond the range of
doubles, and at most 127 containers inside each other. Of members with one name the last wins.

Readers take the characters from where they start and return what they leave. The recursion of values goes down a
bound on the length of the text, which `parse?` supplies.
-/

namespace SchemaRelay

namespace Json.Reader

/-- White space between tokens. -/
def isSpace (c : Char) : Bool := c == ' ' || c == '\t' || c == '\n' || c == '\r'

def skipSpace (s : List Char) : List Char := s.dropWhile isSpace

/-- The value of four hexadecimal digits. -/
def unit? (a b c d : Char) : Option Nat := do
  return ((← Text.hexValue? a) * 16 + (← Text.hexValue? b)) * 256 + (← Text.hexValue? c) * 16 + (← Text.hexValue? d)

/-- The character of an escape with one letter. -/
def shortEscape? (c : Char) : Option Char :=
  match c with
  | '"' => some '"'
  | '\\' => some '\\'
  | '/' => some '/'
  | 'b' => some '\x08'
  | 'f' => some '\x0c'
  | 'n' => some '\n'
  | 'r' => some '\r'
  | 't' => some '\t'
  | _ => none

/-- The leading one of a pair of surrogates. -/
def isHigh (n : Nat) : Bool := 0xD800 ≤ n && n < 0xDC00

/-- The trailing one of a pair of surrogates. -/
def isLow (n : Nat) : Bool := 0xDC00 ≤ n && n < 0xE000

/-- The characters of a string whose opening quote is read. -/
def stringChars : List Char → Option (List Char × List Char)
  | [] => none
  | '"' :: rest => some ([], rest)
  | '\\' :: 'u' :: a :: b :: c :: d :: rest =>
    match unit? a b c d with
    | none => none
    | some n =>
      if isHigh n then
        match rest with
        | '\\' :: 'u' :: e :: f :: g :: h :: rest =>
          match unit? e f g h with
          | none => none
          | some m =>
            if isLow m then
              (stringChars rest).map fun r =>
                (Char.ofNat (0x10000 + (n - 0xD800) * 0x400 + (m - 0xDC00)) :: r.1, r.2)
            else none
        | _ => none
      else if isLow n then none
      else (stringChars rest).map fun r => (Char.ofNat n :: r.1, r.2)
  | '\\' :: x :: rest =>
    match shortEscape? x with
    | none => none
    | some c => (stringChars rest).map fun r => (c :: r.1, r.2)
  | c :: rest =>
    if c.toNat < 0x20 then none else (stringChars rest).map fun r => (c :: r.1, r.2)
termination_by structural s => s

/-- At least one digit, and the rest. -/
def digits? (s : List Char) : Option (List Char × List Char) :=
  let ds := s.takeWhile Char.isDigit
  if ds.isEmpty then none else some (ds, s.dropWhile Char.isDigit)

/-- The digits after a point, none when there is no point. -/
def fraction? : List Char → Option (List Char × List Char)
  | '.' :: rest => digits? rest
  | s => some ([], s)

/-- The exponent of ten after an `e`, if there is one. -/
def exponent? : List Char → Option (Option Int × List Char)
  | c :: rest =>
    if c = 'e' ∨ c = 'E' then
      let (negative, rest) := match rest with
        | '-' :: r => (true, r)
        | '+' :: r => (false, r)
        | r => (false, r)
      (digits? rest).map fun (ds, r) =>
        let n : Int := Text.decimal ds
        (some (if negative then -n else n), r)
    else some (none, c :: rest)
  | [] => some (none, [])

/-- The number with the given parts; nothing beyond the range of doubles. -/
def numberOf (negative : Bool) (whole frac : List Char) (exp : Option Int) : Option JsonNumber :=
  let asDouble (digits : Nat) (e : Int) : Option JsonNumber :=
    match Double.ofDecimal negative digits e with
    | .infinite _ => none
    | d => some (.double d)
  if frac.isEmpty && exp.isNone then
    let n := Text.decimal whole
    let value : Int := if negative then -n else n
    if negative && n == 0 then some (.double (Double.zero true))
    else if Word.fits value then some (.int value)
    else asDouble n 0
  else asDouble (Text.decimal (whole ++ frac)) (exp.getD 0 - frac.length)

/-- A number. -/
def number? (s : List Char) : Option (JsonNumber × List Char) := do
  let (negative, s) := match s with
    | '-' :: r => (true, r)
    | r => (false, r)
  let (whole, s) ← digits? s
  if whole.head? = some '0' ∧ whole.length ≠ 1 then none
  let (frac, s) ← fraction? s
  let (exp, s) ← exponent? s
  let n ← numberOf negative whole frac exp
  return (n, s)

/-- The rest after a given word. -/
def word? : List Char → List Char → Option (List Char)
  | [], s => some s
  | c :: cs, d :: s => if c = d then word? cs s else none
  | _ :: _, [] => none

mutual

/-- A value, white space before it skipped. `depth` containers may still open. -/
def value? (fuel depth : Nat) (s : List Char) : Option (Json × List Char) :=
  match fuel with
  | 0 => none
  | fuel + 1 =>
    match skipSpace s with
    | [] => none
    | 'n' :: rest => (word? ['u', 'l', 'l'] rest).map (Json.null, ·)
    | 't' :: rest => (word? ['r', 'u', 'e'] rest).map (Json.bool true, ·)
    | 'f' :: rest => (word? ['a', 'l', 's', 'e'] rest).map (Json.bool false, ·)
    | '"' :: rest => (stringChars rest).map fun (cs, r) => (Json.str (String.ofList cs), r)
    | '[' :: rest =>
      match depth with
      | 0 => none
      | depth + 1 =>
        match skipSpace rest with
        | ']' :: rest => some (.arr [], rest)
        | rest => (elements? fuel depth rest).map fun (xs, r) => (Json.arr xs, r)
    | '\x7b' :: rest =>
      match depth with
      | 0 => none
      | depth + 1 =>
        match skipSpace rest with
        | '\x7d' :: rest => some (.obj [], rest)
        | rest => (members? fuel depth rest).map fun (fs, r) => (Json.object fs, r)
    | rest => (number? rest).map fun (n, r) => (Json.num n, r)

/-- One or more elements and the closing bracket. -/
def elements? (fuel depth : Nat) (s : List Char) : Option (List Json × List Char) :=
  match fuel with
  | 0 => none
  | fuel + 1 =>
    match value? fuel depth s with
    | none => none
    | some (x, rest) =>
      match skipSpace rest with
      | ']' :: rest => some ([x], rest)
      | ',' :: rest => (elements? fuel depth rest).map fun (xs, r) => (x :: xs, r)
      | _ => none

/-- One or more members and the closing brace. -/
def members? (fuel depth : Nat) (s : List Char) : Option (List (String × Json) × List Char) :=
  match fuel with
  | 0 => none
  | fuel + 1 =>
    match skipSpace s with
    | '"' :: rest =>
      match stringChars rest with
      | none => none
      | some (k, rest) =>
        match skipSpace rest with
        | ':' :: rest =>
          match value? fuel depth rest with
          | none => none
          | some (v, rest) =>
            match skipSpace rest with
            | '\x7d' :: rest => some ([(String.ofList k, v)], rest)
            | ',' :: rest => (members? fuel depth rest).map fun (fs, r) => ((String.ofList k, v) :: fs, r)
            | _ => none
        | _ => none
    | _ => none

end

end Json.Reader

/-- Containers that may be open at once. -/
def Json.maxDepth : Nat := 127

/-- The value written by the whole text. -/
def Json.parse? (text : String) : Option Json :=
  let s := text.toList
  match Json.Reader.value? (2 * s.length + 2) Json.maxDepth s with
  | some (v, rest) => if (Json.Reader.skipSpace rest).isEmpty then some v else none
  | none => none

end SchemaRelay
