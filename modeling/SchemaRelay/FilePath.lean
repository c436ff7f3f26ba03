import SchemaRelay.Text.Split

/-!
# Paths as texts

Parts of a path stand between slashes. Empty parts and single dots lead nowhere.
-/

namespace SchemaRelay.FilePath

/-- The parts of a path between slashes. -/
def parts (path : String) : List String := (Text.pieces (· == '/') path.toList).map String.ofList

def isAbsolute (path : String) : Bool := path.toList.head? == some '/'

/-- The parts of a path that lead somewhere. -/
def components (path : String) : List String := (parts path).filter fun p => p ≠ "" && p ≠ "."

/-- The path `path` seen from `directory`. -/
def join (directory path : String) : String :=
  if isAbsolute path then path
  else match directory.toList.getLast? with
    | none => path
    | some '/' => directory ++ path
    | some _ => s!"{directory}/{path}"

/-- The text without slashes and single dots at its end. -/
def dropTrailing (s : List Char) : List Char := (go s.reverse).reverse
where
  /-- Works on the text backwards. -/
  go : List Char → List Char
    | '/' :: rest => go rest
    | '.' :: '/' :: rest => go rest
    | s => s

/-- The directory that a path names something in; nothing for the root and the empty path, empty for a bare name. -/
def parent? (path : String) : Option String :=
  let s := dropTrailing path.toList
  if s.isEmpty then none
  else
    let name := (s.reverse.takeWhile (· != '/')).reverse
    let front := s.take (s.length - name.length)
    if front.isEmpty then some ""
    else
      let directory := dropTrailing front
      some (if directory.isEmpty then "/" else String.ofList directory)

end SchemaRelay.FilePath
