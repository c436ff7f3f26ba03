import SchemaRelay.Config.Value
import SchemaRelay.Number.Word
import SchemaRelay.Text.Blank
import SchemaRelay.Text.Digits

/-!
# Values in environment variables

The text of a variable is a truth value, a number, a quoted text, a list in brackets, a table in braces, or else itself.
A text that is none of these as a whole, such as one with a bracket that does not close, stands for itself too.
-/

namespace SchemaRelay.Config.EnvText

/-- White space inside a value. -/
def isSpace (c : Char) : Bool := c == ' ' || c == '\t' || c == '\n' || c == '\r' || c == '\x0c'

def skipSpace (s : List Char) : List Char := s.dropWhile isSpace

/-- A character that ends a bare value. -/
def separates (c : Char) : Bool := c ∈ [',', '\x7b', '\x7d', '[', ']']

/-- A natural number of 64 bits; a plus sign may stand in front. -/
def unsigned? (s : List Char) : Option Nat :=
  let ds := match s with
    | '+' :: rest => rest
    | s => s
  if ds.isEmpty || !ds.all Char.isDigit then none
  else let n := Text.decimal ds; if n < Word.size then some n else none

/-- An integer of 64 bits with a minus sign. -/
def signed? (s : List Char) : Option Int :=
  match s with
  | '-' :: ds =>
    if ds.isEmpty || !ds.all Char.isDigit then none
    else let n := Text.decimal ds; if n ≤ Word.half then some (-(n : Int)) else none
  | _ => none

/-- A decimal number: digits with a point, before which or after which there may be none, and perhaps an exponent. -/
def float? (s : List Char) : Option Double := do
  let (negative, s) := match s with
    | '-' :: rest => (true, rest)
    | '+' :: rest => (false, rest)
    | s => (false, s)
  let whole := s.takeWhile Char.isDigit
  let s := s.dropWhile Char.isDigit
  let (frac, s) := match s with
    | '.' :: rest => (rest.takeWhile Char.isDigit, rest.dropWhile Char.isDigit)
    | s => ([], s)
  if whole.isEmpty && frac.isEmpty then none
  let exp : Int ← match s with
    | [] => some 0
    | c :: rest =>
      if c = 'e' ∨ c = 'E' then
        let (down, ds) := match rest with
          | '-' :: r => (true, r)
          | '+' :: r => (false, r)
          | r => (false, r)
        if ds.isEmpty || !ds.all Char.isDigit then none
        else some (if down then -(Text.decimal ds : Int) else Text.decimal ds)
      else none
  return Double.ofDecimal negative (Text.decimal (whole ++ frac)) (exp - frac.length)

/-- A value without delimiters. -/
def bare (s : List Char) : Value :=
  match if '.' ∈ s then float? s else none with
  | some d => .float d
  | none =>
    match unsigned? s, signed? s with
    | some n, _ => .unsigned n
    | none, some n => .signed n
    | none, none => .text (String.ofList s)

/-- The character of an escape with one letter. -/
def shortEscape? : Char → Option Char
  | '"' => some '"'
  | '\\' => some '\\'
  | 'b' => some '\x08'
  | 'f' => some '\x0c'
  | 'n' => some '\n'
  | 'r' => some '\r'
  | 't' => some '\t'
  | _ => none

/-- The characters of a quoted text up to its closing quote, and the rest. -/
def quoted? : List Char → Option (List Char × List Char)
  | [] => none
  | '"' :: rest => some ([], rest)
  | '\\' :: 'u' :: a :: b :: c :: d :: rest =>
    (Text.codePoint? [a, b, c, d]).bind fun x => (quoted? rest).map fun (cs, r) => (x :: cs, r)
  | '\\' :: 'U' :: a :: b :: c :: d :: e :: f :: g :: h :: rest =>
    (Text.codePoint? [a, b, c, d, e, f, g, h]).bind fun x => (quoted? rest).map fun (cs, r) => (x :: cs, r)
  | '\\' :: x :: rest => (shortEscape? x).bind fun c => (quoted? rest).map fun (cs, r) => (c :: cs, r)
  | c :: rest =>
    if c = '\t' ∨ (0x20 ≤ c.toNat ∧ c.toNat ≠ 0x7F) then (quoted? rest).map fun (cs, r) => (c :: cs, r) else none

/-- The name of a table's field. -/
def key? (s : List Char) : Option (String × List Char) :=
  match skipSpace s with
  | '"' :: rest => (quoted? rest).map fun (cs, r) => (String.ofList cs, skipSpace r)
  | s =>
    let isName (c : Char) : Bool := c.isAlphanum || c == '_' || c == '-'
    let name := s.takeWhile isName
    if name.isEmpty then none else some (String.ofList name, skipSpace (s.dropWhile isName))

mutual

/-- A value with the white space around it. The recursion goes down a bound on the length of the text. -/
def value? (fuel : Nat) (s : List Char) : Option (Value × List Char) :=
  match fuel with
  | 0 => none
  | fuel + 1 =>
    let result : Option (Value × List Char) := match skipSpace s with
      | 't' :: 'r' :: 'u' :: 'e' :: rest => some (.bool true, rest)
      | 'f' :: 'a' :: 'l' :: 's' :: 'e' :: rest => some (.bool false, rest)
      | '\x7b' :: rest => (pairs? fuel rest).map fun (fs, r) => (Value.table (Fields.ofList fs), r)
      | '[' :: rest => (elements? fuel rest).map fun (xs, r) => (Value.list xs, r)
      | '"' :: rest => (quoted? rest).map fun (cs, r) => (Value.text (String.ofList cs), r)
      | '\'' :: c :: '\'' :: rest => some (.text (String.singleton c), rest)
      | '\'' :: _ => none
      | rest =>
        some (bare (Text.trimChars (rest.takeWhile (!separates ·))), rest.dropWhile (!separates ·))
    result.map fun (v, r) => (v, skipSpace r)

/-- The elements of a list up to its closing bracket; a comma may stand after the last. -/
def elements? (fuel : Nat) (s : List Char) : Option (List Value × List Char) :=
  match fuel, s with
  | 0, _ => none
  | _, ']' :: rest => some ([], rest)
  | fuel + 1, s =>
    match value? fuel s with
    | some (v, ']' :: rest) => some ([v], rest)
    | some (v, ',' :: rest) => (elements? fuel rest).map fun (vs, r) => (v :: vs, r)
    | _ => none

/-- The fields of a table up to its closing brace; a comma may stand after the last. -/
def pairs? (fuel : Nat) (s : List Char) : Option (List (String × Value) × List Char) :=
  match fuel, s with
  | 0, _ => none
  | _, '\x7d' :: rest => some ([], rest)
  | fuel + 1, s =>
    match key? s with
    | some (k, '=' :: rest) =>
      match value? fuel rest with
      | some (v, '\x7d' :: rest) => some ([(k, v)], rest)
      | some (v, ',' :: rest) => (pairs? fuel rest).map fun (fs, r) => ((k, v) :: fs, r)
      | _ => none
    | _ => none

end

/-- The value of a variable's text. -/
def parse (text : String) : Value :=
  let s := Text.trimChars text.toList
  match value? (2 * s.length + 2) s with
  | some (v, []) => v
  | _ => .text (String.ofList s)

end SchemaRelay.Config.EnvText
