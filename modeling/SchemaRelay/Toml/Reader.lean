import SchemaRelay.Toml.Document
import SchemaRelay.Toml.Scalar

/-!
# Reading TOML documents

`Toml.parse?` reads a document: lines with a key and a value, with the header of a table or of one more table of an
array, or with nothing; any of them may end in a comment. It answers the fields of the root table, or nothing for a text
that is no document.
-/

namespace SchemaRelay.Toml

def skipSpaces (s : List Char) : List Char := s.dropWhile isSpace

/-- The text after a comment, if one starts here; a comment holds no controls. -/
def skipComment? (s : List Char) : Option (List Char) :=
  match s with
  | '#' :: rest =>
    let more := rest.dropWhile isPlain
    if more.isEmpty ∨ (afterBreak? more).isSome then some more else none
  | s => some s

/-- The text at the start of the next line, white space and a comment being all that is left of this one. -/
def endLine? (s : List Char) : Option (List Char) := do
  let s ← skipComment? (skipSpaces s)
  match s with
  | [] => return []
  | s => afterBreak? s

/-- The text after white space, line breaks and comments; at most `fuel` of them. -/
def skipLines? : Nat → List Char → Option (List Char)
  | 0, s => some s
  | fuel + 1, s =>
    match skipSpaces s with
    | '#' :: rest => (skipComment? ('#' :: rest)).bind (skipLines? fuel)
    | s =>
      match afterBreak? s with
      | some rest => skipLines? fuel rest
      | none => some s

def isBare (c : Char) : Bool := c.isAlphanum || c == '_' || c == '-'

/-- One part of a key. -/
def keyPart? (s : List Char) : Option (String × List Char) :=
  let bare := s.takeWhile isBare
  if bare.isEmpty then shortString? s else some (String.ofList bare, s.dropWhile isBare)

/-- A key of one or more parts with dots between them; at most `fuel` parts. -/
def key? : Nat → List Char → Option (List String × List Char)
  | 0, _ => none
  | fuel + 1, s =>
    match keyPart? (skipSpaces s) with
    | none => none
    | some (part, rest) =>
      match skipSpaces rest with
      | '.' :: more => (key? fuel more).map fun (parts, r) => (part :: parts, r)
      | rest => some ([part], rest)

/-- A value that holds no others. -/
def scalar? (s : List Char) : Option (Toml × List Char) :=
  match s with
  | '"' :: _ => (string? s).map fun (t, r) => (.str t, r)
  | '\'' :: _ => (string? s).map fun (t, r) => (.str t, r)
  | 't' :: 'r' :: 'u' :: 'e' :: rest => some (.bool true, rest)
  | 'f' :: 'a' :: 'l' :: 's' :: 'e' :: rest => some (.bool false, rest)
  | s =>
    ((dateTime? s).map fun (t, r) => (Toml.dateTime t, r)).or
      (((float? s).map fun (d, r) => (Toml.float d, r)).or ((integer? s).map fun (n, r) => (Toml.int n, r)))

/-- Arrays and inline tables that may be open at once. -/
def maxDepth : Nat := 80

mutual

/-- A value. -/
def value? (fuel depth : Nat) (s : List Char) : Option (Toml × List Char) :=
  match fuel with
  | 0 => none
  | fuel + 1 =>
    match s with
    | '[' :: rest =>
      match depth with
      | 0 => none
      | depth + 1 => (elements? fuel depth rest).map fun (xs, r) => (Toml.list xs, r)
    | '\x7b' :: rest =>
      match depth with
      | 0 => none
      | depth + 1 =>
        match skipSpaces rest with
        | '\x7d' :: r => some (.table [], r)
        | rest => (pairs? fuel depth [] rest).map fun (fs, r) => (Toml.table (Node.fieldsToToml fs), r)
    | s => scalar? s

/-- The elements of an array up to its closing bracket; line breaks and comments may stand between them. -/
def elements? (fuel depth : Nat) (s : List Char) : Option (List Toml × List Char) :=
  match fuel with
  | 0 => none
  | fuel + 1 =>
    match skipLines? s.length s with
    | none => none
    | some (']' :: rest) => some ([], rest)
    | some s =>
      match value? fuel depth s with
      | none => none
      | some (x, rest) =>
        match skipLines? rest.length rest with
        | some (']' :: rest) => some ([x], rest)
        | some (',' :: rest) => (elements? fuel depth rest).map fun (xs, r) => (x :: xs, r)
        | _ => none

/-- The pairs of an inline table up to its closing brace, added to `fs`. -/
def pairs? (fuel depth : Nat) (fs : Nodes) (s : List Char) : Option (Nodes × List Char) :=
  match fuel with
  | 0 => none
  | fuel + 1 =>
    match key? s.length s with
    | some (path, '=' :: rest) =>
      match value? fuel depth (skipSpaces rest) with
      | none => none
      | some (v, rest) =>
        match fs.set v path with
        | none => none
        | some fs =>
          match skipSpaces rest with
          | '\x7d' :: rest => some (fs, rest)
          | ',' :: rest => pairs? fuel depth fs rest
          | _ => none
    | _ => none

end

/-- The path in a header, read after its bracket, and the text after `n` closing brackets. -/
def header? (n : Nat) (s : List Char) : Option (List String × List Char) :=
  match key? s.length s with
  | some (path, rest) => if rest.take n == List.replicate n ']' then some (path, rest.drop n) else none
  | none => none

/-- Applies a change to the last name of a path. -/
def openAt (change : String → Nodes → Option Nodes) (path : List String) (root : Nodes) : Option Nodes :=
  path.getLast?.bind fun key => root.atHeader (change key) path.dropLast

/-- The lines of a document, whose keys go into the table at `current`. -/
def lines? : Nat → List String → Nodes → List Char → Option Nodes
  | 0, _, _, _ => none
  | fuel + 1, current, root, s =>
    match skipSpaces s with
    | [] => some root
    | '[' :: '[' :: rest =>
      match header? 2 rest with
      | some (path, rest) => (openAt Nodes.openItem path root).bind fun root =>
          (endLine? rest).bind (lines? fuel path root)
      | none => none
    | '[' :: rest =>
      match header? 1 rest with
      | some (path, rest) => (openAt Nodes.openTable path root).bind fun root =>
          (endLine? rest).bind (lines? fuel path root)
      | none => none
    | s =>
      if s.head? = some '#' ∨ (afterBreak? s).isSome then (endLine? s).bind (lines? fuel current root)
      else
        match key? s.length s with
        | some (path, '=' :: rest) =>
          match value? (2 * s.length + 2) maxDepth (skipSpaces rest) with
          | some (v, rest) => (root.atHeader (Nodes.set v path) current).bind fun root =>
              (endLine? rest).bind (lines? fuel current root)
          | none => none
        | _ => none

/-- The root table of a document. A byte order mark at its start is no part of it. -/
def parse? (text : String) : Option (List (String × Toml)) :=
  let s := match text.toList with
    | '\uFEFF' :: rest => rest
    | s => s
  (lines? (s.length + 2) [] [] s).map Node.fieldsToToml

end SchemaRelay.Toml
