import SchemaRelay.Url.Parser

/-!
# References

`Url.join` reads a reference as a URL of the web in the place of another one: what the reference leaves out it has in
common with the URL where it stands.
-/

namespace SchemaRelay.Url

/-- A slash of either kind. -/
def isSlash (c : Char) : Bool := c == '/' || c == '\\'

/-- The directory of a path. -/
def Path.directory : Path → List (List Char)
  | .segments names => names.dropLast
  | .opaqueText _ => []

/-- The URL of a reference without scheme that stands in `base`, a URL with a host. -/
def relative (base : Url) (s : List Char) : Except UrlError Url :=
  let front := s.takeWhile (!endsPath ·)
  let (query, fragment) := queryAndFragment true (s.dropWhile (!endsPath ·))
  if front.isEmpty then
    .ok { base with query := if (s.head? == some '?') then query else base.query, fragment }
  else if 2 ≤ (front.takeWhile isSlash).length then afterSlashes base.scheme (s.dropWhile isSlash)
  else
    let directory := if front.head?.any isSlash then [] else base.path.directory
    let text := if front.head?.any isSlash then front.drop 1 else front
    .ok { base with path := .segments (resolveSegments .ofSpecial directory text), query, fragment }

/-- The URL of a reference that stands in `base`, a URL of the web. A scheme equal to that of `base` may be repeated in
front of what is still relative. -/
def join (base : Url) (reference : String) : Except UrlError Url :=
  let s := clean reference.toList
  match scheme? s with
  | none => relative base s
  | some (scheme, rest) =>
    if scheme = base.scheme ∧ (rest.takeWhile isSlash).length < 2 then relative base rest else parse reference

end SchemaRelay.Url
