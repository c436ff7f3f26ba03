import SchemaRelay.Text.Split
import SchemaRelay.Url.Basic

/-!
# Paths of URLs

How the text of a path becomes segments. Single dots vanish and double dots take the segment before them away, also
when a dot is written `%2e`. In file URLs a drive letter at the root ends in a colon and leading empty segments go; a
drive letter is never taken away.
-/

namespace SchemaRelay.Url

/-- What the scheme decides about paths. -/
structure PathRules where
  /-- A backslash separates like a slash. -/
  backslash : Bool
  /-- Drive letters count and leading empty segments are dropped. -/
  file : Bool
  deriving DecidableEq, Repr

namespace PathRules

def ofFile : PathRules := ⟨true, true⟩

def ofSpecial : PathRules := ⟨true, false⟩

def ofOther : PathRules := ⟨false, false⟩

/-- A character that ends a segment. -/
def separates (r : PathRules) (c : Char) : Bool := c == '/' || (r.backslash && c == '\\')

end PathRules

/-- The text with each `%2e` read as a dot. -/
def plainDots : List Char → List Char
  | '%' :: '2' :: 'e' :: rest => '.' :: plainDots rest
  | '%' :: '2' :: 'E' :: rest => '.' :: plainDots rest
  | c :: rest => c :: plainDots rest
  | [] => []

/-- A segment that stands for its own directory. -/
def isSingleDot (seg : List Char) : Bool := plainDots seg == ['.']

/-- A segment that stands for the directory above. -/
def isDoubleDot (seg : List Char) : Bool := plainDots seg == ['.', '.']

/-- A letter and a colon or a bar. -/
def isDriveLetter : List Char → Bool
  | [a, b] => a.isAlpha && (b == ':' || b == '|')
  | _ => false

/-- The segments without the last one; a drive letter stays. -/
def parent (done : List (List Char)) : List (List Char) :=
  if (done.getLast?).any isDriveLetter then done else done.dropLast

/-- The written form of a segment after the segments `done`. -/
def writtenSegment (r : PathRules) (done : List (List Char)) (seg : List Char) : List Char :=
  if r.file && done.isEmpty && isDriveLetter seg then seg.take 1 ++ [':'] else encode pathSet seg

/-- The segments after walking from the directory `done` along the given ones; the last one is a file's name, empty
where the walk ends at a directory. -/
def walk (r : PathRules) (done : List (List Char)) : List (List Char) → List (List Char)
  | [] => done ++ [[]]
  | [seg] =>
    if isDoubleDot seg then parent done ++ [[]]
    else if isSingleDot seg then done ++ [[]]
    else done ++ [writtenSegment r done seg]
  | seg :: segs =>
    if isDoubleDot seg then walk r (parent done) segs
    else if isSingleDot seg then walk r done segs
    else walk r (done ++ [writtenSegment r done seg]) segs

/-- Drops leading empty segments, except that a path keeps one segment. -/
def dropLeadingEmpty (names : List (List Char)) : List (List Char) :=
  match names.dropWhile List.isEmpty with
  | [] => [[]]
  | rest => rest

/-- The segments of the text `s` read from the directory `done`. -/
def resolveSegments (r : PathRules) (done : List (List Char)) (s : List Char) : List (List Char) :=
  let names := walk r done (Text.pieces r.separates s)
  if r.file then dropLeadingEmpty names else names

/-! ## What follows a path -/

/-- A character that ends a path. -/
def endsPath (c : Char) : Bool := c == '?' || c == '#'

/-- The query and the fragment of a text that starts where a path ended. -/
def queryAndFragment (special : Bool) (s : List Char) : Option (List Char) × Option (List Char) :=
  let set := if special then specialQuerySet else querySet
  match s with
  | '?' :: rest =>
    let query := encode set (rest.takeWhile (· != '#'))
    match rest.dropWhile (· != '#') with
    | '#' :: f => (some query, some (encode fragmentSet f))
    | _ => (some query, none)
  | '#' :: f => (none, some (encode fragmentSet f))
  | _ => (none, none)

/-! ## Cleaning -/

/-- The text without controls and spaces at its ends. -/
def trimControls (s : List Char) : List Char :=
  let blank (c : Char) : Bool := c.toNat ≤ 0x20
  ((s.dropWhile blank).reverse.dropWhile blank).reverse

/-- The text without tabs and line breaks. -/
def dropBreaks (s : List Char) : List Char := s.filter fun c => !(c == '\t' || c == '\n' || c == '\r')

/-- The text as URLs are read: trimmed, and without tabs and line breaks. -/
def clean (s : List Char) : List Char := dropBreaks (trimControls s)

end SchemaRelay.Url
