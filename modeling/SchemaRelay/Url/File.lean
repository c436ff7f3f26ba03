import SchemaRelay.Url.Path

/-!
# URLs of files

The URL of a directory, and the URL of a file named relative to it.
-/

namespace SchemaRelay.Url

/-- The names along an absolute path, nothing for a relative one. Empty names and single dots are left out. -/
def pathNames? (path : String) : Option (List (List Char)) :=
  match path.toList with
  | '/' :: rest => some ((Text.pieces (· == '/') rest).filter fun n => !(n.isEmpty || n == ['.']))
  | _ => none

/-- A file URL with the given segments. -/
def ofSegments (names : List (List Char)) (query fragment : Option (List Char)) : Url where
  scheme := ['f', 'i', 'l', 'e']
  authority := some ⟨[], [], .domain [], none⟩
  path := .segments names
  query := query
  fragment := fragment

/-- The URL of the file that `reference`, a text starting with `./`, names from the directory with the given names. -/
def ofRelative (directory : List (List Char)) (reference : String) : Url :=
  let s := clean reference.toList
  let done := directory.map (encode nameSet)
  let (query, fragment) := queryAndFragment true (s.dropWhile (!endsPath ·))
  ofSegments (resolveSegments .ofFile done (s.takeWhile (!endsPath ·))) query fragment

end SchemaRelay.Url
