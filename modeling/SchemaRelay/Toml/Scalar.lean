import SchemaRelay.Number.Word
import SchemaRelay.Text.Digits
import SchemaRelay.Toml.Basic

/-!
# TOML strings, numbers and dates

Readers take the characters from where they start and return what they leave.
-/

namespace SchemaRelay.Toml

/-- A reader of something written at the front of a text. -/
abbrev Reader (α : Type) := List Char → Option (α × List Char)

def isSpace (c : Char) : Bool := c == ' ' || c == '\t'

/-- A character that may stand in a string or a comment: no control but the tab. -/
def isPlain (c : Char) : Bool := c == '\t' || (0x20 ≤ c.toNat && c.toNat != 0x7F)

/-- A line break is left as it is counted: one character, or two. -/
def afterBreak? : List Char → Option (List Char)
  | '\n' :: rest => some rest
  | '\r' :: '\n' :: rest => some rest
  | _ => none

/-! ## Strings -/

/-- The character of `n` hexadecimal digits. -/
def codePoint? (n : Nat) (s : List Char) : Option (Char × List Char) :=
  if (s.take n).length = n then (Text.codePoint? (s.take n)).map (·, s.drop n) else none

/-- The character of an escape, read after its backslash. -/
def escape? : Reader Char
  | 'b' :: rest => some ('\x08', rest)
  | 't' :: rest => some ('\t', rest)
  | 'n' :: rest => some ('\n', rest)
  | 'f' :: rest => some ('\x0c', rest)
  | 'r' :: rest => some ('\r', rest)
  | '"' :: rest => some ('"', rest)
  | '\\' :: rest => some ('\\', rest)
  | 'u' :: rest => codePoint? 4 rest
  | 'U' :: rest => codePoint? 8 rest
  | _ => none

/-- The characters up to the closing quote; at most `fuel` of them. -/
def basicChars : Nat → Reader (List Char)
  | 0, _ => none
  | fuel + 1, s =>
    match s with
    | '"' :: rest => some ([], rest)
    | '\\' :: rest =>
      match escape? rest with
      | some (c, rest) => (basicChars fuel rest).map fun (cs, r) => (c :: cs, r)
      | none => none
    | c :: rest => if isPlain c then (basicChars fuel rest).map fun (cs, r) => (c :: cs, r) else none
    | [] => none

/-- The characters up to the closing apostrophe. -/
def literalChars : Reader (List Char)
  | '\'' :: rest => some ([], rest)
  | c :: rest => if isPlain c then (literalChars rest).map fun (cs, r) => (c :: cs, r) else none
  | [] => none

/-- The text after the white space and line breaks that a backslash at the end of a line swallows. -/
def skipFolded (s : List Char) : List Char := s.dropWhile fun c => isSpace c || c == '\n' || c == '\r'

/-- A backslash, spaces and a line break; the text goes on at the next character that is neither. -/
def folded? (s : List Char) : Option (List Char) :=
  match afterBreak? (s.dropWhile isSpace) with
  | some rest => some (skipFolded rest)
  | none => none

/-- The end of a text of several lines: three quotes, and up to two more in front that belong to the text. -/
def closing? (quote : Char) (s : List Char) : Option (List Char × List Char) :=
  let n := (s.takeWhile (· == quote)).length
  if n < 3 then none else let m := min n 5; some (List.replicate (m - 3) quote, s.drop m)

/-- The characters of a basic text of several lines up to its end. -/
def basicLines : Nat → Reader (List Char)
  | 0, _ => none
  | fuel + 1, s =>
    match closing? '"' s with
    | some r => some r
    | none =>
      match s with
      | [] => none
      | '\\' :: rest =>
        match folded? rest with
        | some rest => basicLines fuel rest
        | none =>
          match escape? rest with
          | some (c, rest) => (basicLines fuel rest).map fun (cs, r) => (c :: cs, r)
          | none => none
      | c :: rest =>
        match afterBreak? s with
        | some rest => (basicLines fuel rest).map fun (cs, r) => ('\n' :: cs, r)
        | none => if isPlain c then (basicLines fuel rest).map fun (cs, r) => (c :: cs, r) else none

/-- The characters of a literal text of several lines up to its end. -/
def literalLines : Nat → Reader (List Char)
  | 0, _ => none
  | fuel + 1, s =>
    match closing? '\'' s with
    | some r => some r
    | none =>
      match s with
      | [] => none
      | c :: rest =>
        match afterBreak? s with
        | some rest => (literalLines fuel rest).map fun (cs, r) => ('\n' :: cs, r)
        | none => if isPlain c then (literalLines fuel rest).map fun (cs, r) => (c :: cs, r) else none

/-- The text without a line break at its start. -/
def dropFirstBreak (s : List Char) : List Char := (afterBreak? s).getD s

/-- A string on one line. -/
def shortString? (s : List Char) : Option (String × List Char) :=
  match s with
  | '"' :: rest => (basicChars s.length rest).map fun (cs, r) => (String.ofList cs, r)
  | '\'' :: rest => (literalChars rest).map fun (cs, r) => (String.ofList cs, r)
  | _ => none

/-- A string of any kind. -/
def string? (s : List Char) : Option (String × List Char) :=
  match s with
  | '"' :: '"' :: '"' :: rest =>
    (basicLines s.length (dropFirstBreak rest)).map fun (cs, r) => (String.ofList cs, r)
  | '\'' :: '\'' :: '\'' :: rest =>
    (literalLines s.length (dropFirstBreak rest)).map fun (cs, r) => (String.ofList cs, r)
  | s => shortString? s

/-! ## Numbers -/

/-- Digits with single underscores between them: the digits alone, and the rest. -/
def digits? (isDigit : Char → Bool) : Reader (List Char)
  | c :: rest =>
    if !isDigit c then none
    else match rest with
      | '_' :: more => (digits? isDigit more).map fun (ds, r) => (c :: ds, r)
      | more =>
        match digits? isDigit more with
        | some (ds, r) => some (c :: ds, r)
        | none => if (more.head?).any isDigit then none else some ([c], more)
  | [] => none

/-- A sign, minus being true. -/
def sign? : List Char → Option Bool × List Char
  | '+' :: rest => (some false, rest)
  | '-' :: rest => (some true, rest)
  | s => (none, s)

/-- Decimal digits of a whole number: no zero in front of others. -/
def whole? (s : List Char) : Option (List Char × List Char) :=
  match digits? Char.isDigit s with
  | some (ds, rest) => if ds.head? = some '0' ∧ ds.length ≠ 1 then none else some (ds, rest)
  | none => none

/-- An integer: decimal with a sign, or hexadecimal, octal or binary without one. -/
def integer? (s : List Char) : Option (Int × List Char) :=
  let based (base : Nat) (isDigit : Char → Bool) (rest : List Char) : Option (Int × List Char) :=
    match digits? isDigit rest with
    | some (ds, r) => let n : Int := Text.numberOf base ds; if Word.fitsSigned n then some (n, r) else none
    | none => none
  match s with
  | '0' :: 'x' :: rest => based 16 Text.isHex rest
  | '0' :: 'o' :: rest => based 8 (fun c => '0' ≤ c && c ≤ '7') rest
  | '0' :: 'b' :: rest => based 2 (fun c => c == '0' || c == '1') rest
  | s =>
    let (sign, rest) := sign? s
    match whole? rest with
    | some (ds, r) =>
      let n : Int := Text.decimal ds
      let n := if sign = some true then -n else n
      if Word.fitsSigned n then some (n, r) else none
    | none => none

/-- The exponent of ten after an `e`. -/
def exponent? : Reader Int
  | c :: rest =>
    if c = 'e' ∨ c = 'E' then
      let (sign, rest) := sign? rest
      (digits? Char.isDigit rest).map fun (ds, r) =>
        let n : Int := Text.decimal ds
        (if sign = some true then -n else n, r)
    else none
  | [] => none

/-- A float: digits with a fraction, an exponent or both, an infinity or not a number. Decimals above the range of
doubles are refused. -/
def float? (s : List Char) : Option (Double × List Char) :=
  let (sign, rest) := sign? s
  let negative := sign = some true
  match rest with
  | 'i' :: 'n' :: 'f' :: r => some (.infinite negative, r)
  | 'n' :: 'a' :: 'n' :: r => some (.nan, r)
  | rest =>
    match whole? rest with
    | none => none
    | some (ds, rest) =>
      let finish (frac : List Char) (exp : Int) (r : List Char) : Option (Double × List Char) :=
        match Double.ofDecimal negative (Text.decimal (ds ++ frac)) (exp - frac.length) with
        | .infinite false => none
        | d => some (d, r)
      match rest with
      | '.' :: more =>
        match digits? Char.isDigit more with
        | none => none
        | some (frac, more) =>
          match exponent? more with
          | some (exp, r) => finish frac exp r
          | none => if more.head? = some 'e' ∨ more.head? = some 'E' then none else finish frac 0 more
      | rest => (exponent? rest).bind fun (exp, r) => finish [] exp r

/-! ## Dates and times -/

/-- Exactly `n` digits below a bound. -/
def field? (n low high : Nat) (s : List Char) : Option (Nat × List Char) :=
  let ds := s.take n
  let v := Text.decimal ds
  if ds.length = n ∧ ds.all Char.isDigit ∧ low ≤ v ∧ v ≤ high then some (v, s.drop n) else none

/-- The rest after a given character. -/
def char? (c : Char) : List Char → Option (List Char)
  | d :: rest => if d = c then some rest else none
  | [] => none

/-- The number of days of a month. -/
def daysOf (year month : Nat) : Nat :=
  if month = 2 then if (year % 4 = 0 ∧ year % 100 ≠ 0) ∨ year % 400 = 0 then 29 else 28
  else if month ∈ [4, 6, 9, 11] then 30 else 31

/-- The text after a date. -/
def date? (s : List Char) : Option (List Char) := do
  let (year, s) ← field? 4 0 9999 s
  let (month, s) ← field? 2 1 12 (← char? '-' s)
  let (_, s) ← field? 2 1 (daysOf year month) (← char? '-' s)
  return s

/-- The text after a time of day. -/
def time? (s : List Char) : Option (List Char) := do
  let (_, s) ← field? 2 0 23 s
  let (_, s) ← field? 2 0 59 (← char? ':' s)
  let (_, s) ← field? 2 0 60 (← char? ':' s)
  match s with
  | '.' :: rest => if (rest.head?).any Char.isDigit then return rest.dropWhile Char.isDigit else none
  | s => return s

/-- The text after an offset from universal time, if one is there. -/
def skipOffset (s : List Char) : List Char :=
  match s with
  | 'Z' :: rest => rest
  | 'z' :: rest => rest
  | c :: rest =>
    if c = '+' ∨ c = '-' then
      (do let (_, t) ← field? 2 0 23 rest
          let (_, t) ← field? 2 0 59 (← char? ':' t)
          return t : Option (List Char)).getD s
    else s
  | [] => s

/-- A date, a time, or a date with a time. -/
def dateTime? (s : List Char) : Option (String × List Char) :=
  let rest := match date? s with
    | some rest =>
      match rest with
      | c :: more =>
        if c = 'T' ∨ c = 't' ∨ c = ' ' then
          match time? more with
          | some r => some (skipOffset r)
          | none => some rest
        else some rest
      | [] => some []
    | none => time? s
  rest.map fun r => (String.ofList (s.take (s.length - r.length)), r)

end SchemaRelay.Toml
