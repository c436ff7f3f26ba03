import SchemaRelay.Url.Encode

/-!
# URLs

A URL has a scheme, an authority with a host, a path, a query and a fragment, all in encoded form. The path is a list
of segments, each written after a slash, or a text of its own for schemes that have no hierarchy.
-/

namespace SchemaRelay

/-- Why a text is no URL. -/
inductive UrlError where
  | relativeWithoutBase
  | emptyHost
  | invalidPort
  | invalidIpv4
  | invalidIpv6
  | invalidDomainCharacter
  | invalidInternationalName
  deriving DecidableEq, Repr

/-- The text of a refusal. -/
def UrlError.message : UrlError → String
  | .relativeWithoutBase => "relative URL without a base"
  | .emptyHost => "empty host"
  | .invalidPort => "invalid port number"
  | .invalidIpv4 => "invalid IPv4 address"
  | .invalidIpv6 => "invalid IPv6 address"
  | .invalidDomainCharacter => "invalid domain character"
  | .invalidInternationalName => "invalid international domain name"

namespace Url

/-- A host. -/
inductive Host where
  | domain (name : List Char)
  | ipv4 (address : Nat)
  | ipv6 (pieces : List Nat)
  deriving DecidableEq, Repr

/-- A path: segments of a hierarchy, or a text. -/
inductive Path where
  | segments (names : List (List Char))
  | opaqueText (text : List Char)
  deriving DecidableEq, Repr

/-- What follows two slashes: user, password, host and a port other than the scheme's own. -/
structure Authority where
  user : List Char
  password : List Char
  host : Host
  port : Option Nat
  deriving DecidableEq, Repr

end Url

/-- A URL. The authority is absent where there are no two slashes; a file URL without a host has an empty one. -/
structure Url where
  scheme : List Char
  authority : Option Url.Authority
  path : Url.Path
  query : Option (List Char)
  fragment : Option (List Char)
  deriving DecidableEq, Repr

namespace Url

/-- Four numbers below 256 with dots. -/
def ipv4Text (n : Nat) : List Char :=
  Nat.toDigits 10 (n / 0x1000000 % 256) ++ '.' :: Nat.toDigits 10 (n / 0x10000 % 256) ++ '.' ::
    Nat.toDigits 10 (n / 256 % 256) ++ '.' :: Nat.toDigits 10 (n % 256)

/-- The first of the longest runs of at least two zeros: its start and length. -/
def longestZeros (pieces : List Nat) : Option (Nat × Nat) :=
  let runs := (List.range pieces.length).map fun i => (i, ((pieces.drop i).takeWhile (· == 0)).length)
  runs.foldl (fun best r =>
    match best with
    | none => if 2 ≤ r.2 then some r else none
    | some b => if b.2 < r.2 then some r else some b) none

/-- Hexadecimal pieces with colons. -/
def piecesText (pieces : List Nat) : List Char :=
  List.intercalate [':'] (pieces.map (Nat.toDigits 16))

/-- An address of eight pieces, its longest run of zeros written as two colons. -/
def ipv6Text (pieces : List Nat) : List Char :=
  match longestZeros pieces with
  | some (start, length) =>
    piecesText (pieces.take start) ++ ':' :: ':' :: piecesText (pieces.drop (start + length))
  | none => piecesText pieces

namespace Host

/-- The text of a host. -/
def text : Host → List Char
  | .domain name => name
  | .ipv4 address => ipv4Text address
  | .ipv6 pieces => '[' :: ipv6Text pieces ++ [']']

end Host

namespace Path

/-- The text of a path. -/
def text : Path → List Char
  | .segments names => names.flatMap ('/' :: ·)
  | .opaqueText t => t

end Path

namespace Authority

/-- The text of an authority. -/
def text (a : Authority) : List Char :=
  let login := a.user ++ (if a.password.isEmpty then [] else ':' :: a.password)
  (if login.isEmpty then [] else login ++ ['@']) ++ a.host.text ++
    (match a.port with
      | some p => ':' :: Nat.toDigits 10 p
      | none => [])

end Authority

/-- The characters of a URL. -/
def chars (u : Url) : List Char :=
  u.scheme ++ ':' :: (match u.authority with
      | some a => '/' :: '/' :: a.text
      | none => []) ++
    u.path.text ++
    (match u.query with
      | some q => '?' :: q
      | none => []) ++
    (match u.fragment with
      | some f => '#' :: f
      | none => [])

/-- The text of a URL. -/
def text (u : Url) : String := String.ofList u.chars

/-- A host that is there and has a name. -/
def hasHost (u : Url) : Bool :=
  match u.authority with
  | some a => a.host != .domain []
  | none => false

/-- The URL without user and password. -/
def withoutLogin (u : Url) : Url :=
  { u with authority := u.authority.map fun a => { a with user := [], password := [] } }

end Url

end SchemaRelay
