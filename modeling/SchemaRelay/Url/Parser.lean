import SchemaRelay.Url.Host
import SchemaRelay.Url.Path

/-!
# Reading URLs

`Url.parse` reads an absolute URL. The schemes of the web are special: they have a host and a default port, and a
backslash separates like a slash. File URLs may have a host; the others are read as they are written.
-/

namespace SchemaRelay.Url

/-- The port that a scheme uses without saying so. -/
def defaultPort? (scheme : List Char) : Option Nat :=
  match String.ofList scheme with
  | "http" => some 80
  | "https" => some 443
  | "ws" => some 80
  | "wss" => some 443
  | "ftp" => some 21
  | _ => none

def isFile (scheme : List Char) : Bool := scheme == ['f', 'i', 'l', 'e']

/-- The schemes of the web other than `file`. -/
def isSpecial (scheme : List Char) : Bool := (defaultPort? scheme).isSome

/-- A character of a scheme after its first letter. -/
def isSchemeChar (c : Char) : Bool := c.isAlphanum || c == '+' || c == '-' || c == '.'

/-- The scheme in lower case, and the text after its colon. -/
def scheme? (s : List Char) : Option (List Char × List Char) :=
  match s with
  | c :: _ =>
    if c.isAlpha then
      match s.dropWhile isSchemeChar with
      | ':' :: rest => some ((s.takeWhile isSchemeChar).map Char.toLower, rest)
      | _ => none
    else none
  | [] => none

/-- A character that ends an authority. -/
def endsAuthority (special : Bool) (c : Char) : Bool := c == '/' || endsPath c || (special && c == '\\')

/-- The parts before and after the last at sign. -/
def splitLogin (s : List Char) : Option (List Char) × List Char :=
  if '@' ∈ s then
    let host := (s.reverse.takeWhile (· != '@')).reverse
    (some (s.take (s.length - host.length - 1)), host)
  else (none, s)

/-- The part of a host and port that is the host: up to a colon outside brackets. -/
def hostPart (inBrackets : Bool) : List Char → List Char
  | [] => []
  | c :: rest =>
    if c = ':' ∧ !inBrackets then []
    else if c = '[' then c :: hostPart true rest
    else if c = ']' then c :: hostPart false rest
    else c :: hostPart inBrackets rest

/-- The number of a port, read after its colon, and what follows a backslash; nothing where there are no digits. -/
def readPort (s : List Char) : Except UrlError (Option Nat × List Char) :=
  let ds := s.takeWhile Char.isDigit
  let rest := s.drop ds.length
  let n := Text.decimal ds
  if 65536 ≤ n then .error .invalidPort
  else if rest.isEmpty || rest.head? == some '\\' then .ok (if ds.isEmpty then none else some n, rest)
  else .error .invalidPort

/-- The authority at the front of `s`, which holds no character that ends one, and what is left of it. `followed` tells
that a character follows. -/
def readAuthority (scheme : List Char) (s : List Char) (followed : Bool) : Except UrlError (Authority × List Char) := do
  let special := isSpecial scheme
  let (login, rest) := splitLogin s
  if login = some [] ∧ rest.isEmpty ∧ followed then throw .emptyHost
  let user := encode userinfoSet ((login.getD []).takeWhile (· != ':'))
  let password := encode userinfoSet (((login.getD []).dropWhile (· != ':')).drop 1)
  let hostText := hostPart false rest
  let afterHost := rest.drop hostText.length
  if special && hostText.isEmpty then throw .emptyHost
  let host ← if special then specialHost hostText else opaqueHost hostText
  let noHost := host == .domain []
  if noHost ∧ !afterHost.isEmpty then throw .emptyHost
  let (port, rest) ← readPort (afterHost.drop 1)
  if noHost ∧ !(user ++ password).isEmpty then throw .emptyHost
  return (⟨user, password, host, if port = defaultPort? scheme then none else port⟩, rest)

/-- The path, query and fragment of the text after an authority. -/
def finish (scheme : List Char) (authority : Option Authority) (s : List Char) : Url :=
  let special := isSpecial scheme || isFile scheme
  let rules : PathRules := if isFile scheme then .ofFile else if special then .ofSpecial else .ofOther
  let path := s.takeWhile (!endsPath ·)
  let names := match path with
    | [] => if special then [[]] else []
    | c :: rest => resolveSegments rules [] (if rules.separates c then rest else path)
  let (query, fragment) := queryAndFragment special (s.dropWhile (!endsPath ·))
  ⟨scheme, authority, .segments names, query, fragment⟩

/-- The text after two slashes. -/
def afterSlashes (scheme : List Char) (s : List Char) : Except UrlError Url := do
  let ends := endsAuthority (isSpecial scheme)
  let rest := s.dropWhile (!ends ·)
  let (a, left) ← readAuthority scheme (s.takeWhile (!ends ·)) (!rest.isEmpty)
  return finish scheme (some a) (left ++ rest)

/-- A file URL after its colon. A drive letter in the place of the host belongs to the path. -/
def fileUrl (scheme : List Char) (s : List Char) : Except UrlError Url := do
  let slash (c : Char) : Bool := c == '/' || c == '\\'
  let local' : Authority := ⟨[], [], .domain [], none⟩
  match s with
  | a :: b :: rest =>
    if slash a ∧ slash b then
      let ends := endsAuthority true
      let name := rest.takeWhile (!ends ·)
      if isDriveLetter name then return finish scheme (some local') rest
      let host ← if name.isEmpty then pure (.domain []) else specialHost name
      let host := if host == .domain ['l', 'o', 'c', 'a', 'l', 'h', 'o', 's', 't'] then .domain [] else host
      return finish scheme (some { local' with host }) (rest.dropWhile (!ends ·))
    else return finish scheme (some local') s
  | _ => return finish scheme (some local') s

/-- The URL written by a text. -/
def parse (text : String) : Except UrlError Url :=
  match scheme? (clean text.toList) with
  | none => .error .relativeWithoutBase
  | some (scheme, rest) =>
    if isFile scheme then fileUrl scheme rest
    else if isSpecial scheme then afterSlashes scheme (rest.dropWhile fun c => c == '/' || c == '\\')
    else match rest with
      | '/' :: '/' :: rest => afterSlashes scheme rest
      | '/' :: _ => .ok (finish scheme none rest)
      | _ =>
        let (query, fragment) := queryAndFragment false (rest.dropWhile (!endsPath ·))
        .ok ⟨scheme, none, .opaqueText (encode isControl (rest.takeWhile (!endsPath ·))), query, fragment⟩

end SchemaRelay.Url
