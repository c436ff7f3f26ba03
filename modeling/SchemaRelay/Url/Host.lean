import SchemaRelay.Url.Basic
import SchemaRelay.Url.Idna

/-!
# Hosts of URLs

A host in brackets is an IPv6 address. The host of a special URL is decoded and read as a domain name, and a name
whose last label is a number is an IPv4 address; other hosts keep their text.
-/

namespace SchemaRelay.Url

/-! ## IPv4 -/

/-- A part of an address: hexadecimal after `0x`, octal after a zero, decimal otherwise. -/
def ipv4Part? (s : List Char) : Option Nat :=
  let (base, ds) : Nat × List Char := match s with
    | '0' :: 'x' :: rest => (16, rest)
    | '0' :: 'X' :: rest => (16, rest)
    | '0' :: c :: rest => (8, c :: rest)
    | s => (10, s)
  if s.isEmpty then none
  else ds.foldlM (fun n c => (Text.hexValue? c).bind fun d => if d < base then some (n * base + d) else none) 0

/-- The Idna.labels without an empty one at the end. -/
def withoutRoot (parts : List (List Char)) : List (List Char) :=
  match parts.getLast? with
  | some [] => parts.dropLast
  | _ => parts

/-- The last label is a number. -/
def endsInNumber (name : List Char) : Bool :=
  match (withoutRoot (Idna.labels name)).getLast? with
  | some last => (!last.isEmpty && last.all Char.isDigit) || (ipv4Part? last).isSome
  | none => false

/-- The address of up to four parts; all but the last are bytes, and the last fills what remains. -/
def ipv4? (name : List Char) : Option Nat := do
  let parts := withoutRoot (Idna.labels name)
  if 4 < parts.length then none
  let numbers ← parts.mapM ipv4Part?
  let last ← numbers.getLast?
  let front := numbers.dropLast
  if front.any (255 < ·) ∨ Nat.pow 256 (4 - front.length) ≤ last then none
  return front.zipIdx.foldl (fun n (b, i) => n + b * Nat.pow 256 (3 - i)) last

/-! ## IPv6 -/

/-- A decimal number below 256 without zeros in front, and the rest. -/
def byte? (s : List Char) : Option (Nat × List Char) :=
  let ds := s.takeWhile Char.isDigit
  let n := Text.decimal ds
  if ds.isEmpty ∨ (1 < ds.length ∧ ds.head? = some '0') ∨ 255 < n then none else some (n, s.drop ds.length)

/-- Four bytes with dots and nothing else, as two pieces. -/
def embeddedIpv4? (s : List Char) : Option (List Nat) := do
  let dot : List Char → Option (List Char)
    | '.' :: rest => some rest
    | _ => none
  let (a, s) ← byte? s
  let (b, s) ← byte? (← dot s)
  let (c, s) ← byte? (← dot s)
  let (d, s) ← byte? (← dot s)
  if !s.isEmpty then none
  return [256 * a + b, 256 * c + d]

/-- The pieces from where the text stands, after `pieces`. `mark` is the number of pieces up to and with the zero that
two colons stand for. The recursion goes down a bound on the length of the text. -/
def ipv6Pieces? (fuel : Nat) (pieces : List Nat) (mark : Option Nat) (s : List Char) :
    Option (List Nat × Option Nat) :=
  match fuel, s with
  | 0, _ => none
  | _, [] => some (pieces, mark)
  | fuel + 1, c :: rest =>
    if 8 ≤ pieces.length then none
    else if c = ':' then
      if mark.isSome then none else ipv6Pieces? fuel (pieces ++ [0]) (some (pieces.length + 1)) rest
    else
      let ds := ((c :: rest).take 4).takeWhile Text.isHex
      let value := Text.numberOf 16 ds
      match (c :: rest).drop ds.length with
      | [] => if ds.isEmpty then none else some (pieces ++ [value], mark)
      | ':' :: more =>
        if ds.isEmpty ∨ more.isEmpty then none else ipv6Pieces? fuel (pieces ++ [value]) mark more
      | '.' :: _ =>
        if ds.isEmpty ∨ 6 < pieces.length then none
        else (embeddedIpv4? (c :: rest)).map fun p => (pieces ++ p, mark)
      | _ => none

/-- The eight pieces of an address; two colons stand for as many zeros as are missing. -/
def ipv6? (s : List Char) : Option (List Nat) := do
  let start : Option (List Nat × Option Nat × List Char) := match s with
    | ':' :: ':' :: rest => some ([0], some 1, rest)
    | ':' :: _ => none
    | [_] => none
    | [] => none
    | s => some ([], none, s)
  let (pieces, mark, rest) ← start
  let (pieces, mark) ← ipv6Pieces? (s.length + 1) pieces mark rest
  match mark with
  | some k => return pieces.take k ++ List.replicate (8 - pieces.length) 0 ++ pieces.drop k
  | none => if pieces.length = 8 then return pieces else none

/-! ## Hosts -/

/-- The address between brackets. -/
def bracketed (s : List Char) : Except UrlError Host :=
  if s.getLast? = some ']' then
    match ipv6? (s.drop 1).dropLast with
    | some pieces => .ok (.ipv6 pieces)
    | none => .error .invalidIpv6
  else .error .invalidIpv6

/-- The host of a special URL. -/
def specialHost (s : List Char) : Except UrlError Host :=
  if s.head? = some '[' then bracketed s
  else
    match (String.fromUTF8? (ByteArray.mk (decode s).toArray)).bind fun t => Idna.toAscii? t.toList with
    | none => .error .invalidInternationalName
    | some [] => .error .emptyHost
    | some name =>
      if endsInNumber name then
        match ipv4? name with
        | some address => .ok (.ipv4 address)
        | none => .error .invalidIpv4
      else .ok (.domain name)

/-- Characters that the host of another URL may not hold. -/
def isForbiddenOpaque (c : Char) : Bool :=
  c ∈ ['\x00', '\t', '\n', '\r', ' ', '#', '/', ':', '<', '>', '?', '@', '[', '\\', ']', '^', '|']

/-- The host of a URL whose scheme is not special. -/
def opaqueHost (s : List Char) : Except UrlError Host :=
  if s.head? = some '[' then bracketed s
  else if s.any isForbiddenOpaque then .error .invalidDomainCharacter
  else .ok (.domain (encode isControl s))

end SchemaRelay.Url
