import SchemaRelay.Text.Composition
import SchemaRelay.Text.Split
import SchemaRelay.Url.Idna.Mapping
import SchemaRelay.Url.Punycode

/-!
# International domain names

A domain name is mapped to lower case and composed form, its labels are checked, and labels with characters beyond
ASCII are written in Punycode behind `xn--`. `toAscii?` gives the ASCII form, or nothing for a text that no domain name
is written like.
-/

namespace SchemaRelay.Url.Idna

/-- ASCII characters that a host's name may not hold. -/
def isForbidden (c : Char) : Bool :=
  c.toNat ≤ 0x20 || c.toNat == 0x7F || c ∈ ['%', '#', '/', ':', '<', '>', '?', '@', '[', '\\', ']', '^', '|']

/-- The text after a character in a line of entries, each closed by a bar. -/
def entry? (c : Char) : List Char → Option (List Char)
  | [] => none
  | d :: rest =>
    if d = c then some (rest.takeWhile (· != '|')) else entryAfterBar c rest
where
  /-- Goes on with the entry after the next bar. -/
  entryAfterBar (c : Char) : List Char → Option (List Char)
    | [] => none
    | '|' :: rest => entry? c rest
    | _ :: rest => entryAfterBar c rest

/-- What a character stands for. -/
def mapChar (c : Char) : List Char :=
  let n := c.toNat
  if n < 0x80 then [c.toLower]
  else if Text.inRanges ignoredRanges c then []
  else match mappedRuns.find? fun (lo, hi, step, _) => lo ≤ n && n ≤ hi && (n - lo) % step == 0 with
    | some (lo, _, _, partner) => [Char.ofNat (partner + (n - lo))]
    | none => (mappedTexts.findSome? fun line => entry? c line.toList).getD [c]

/-- The text in the form in which names are compared. -/
def normalize (s : List Char) : List Char := Text.compose (s.flatMap mapChar)

/-- The labels of a domain name. -/
def labels (name : List Char) : List (List Char) := Text.pieces (· == '.') name

/-- Ranges of the scripts that are written from right to left. -/
def rightToLeftRanges : List (Nat × Nat) :=
  [(0x05BE, 0x05BE), (0x05C0, 0x05C0), (0x05D0, 0x05F4), (0x0608, 0x0608), (0x061B, 0x064A), (0x066D, 0x066F),
   (0x0671, 0x06D5), (0x06E5, 0x06E6), (0x06EE, 0x06EF), (0x06FA, 0x0710), (0x0712, 0x072F), (0x074D, 0x07A5),
   (0x07B1, 0x07B1), (0x07C0, 0x07EA), (0x07F4, 0x07F5), (0x07FA, 0x0815), (0x0840, 0x0858), (0x0860, 0x08C9),
   (0x200F, 0x200F), (0xFB1D, 0xFB1D), (0xFB1F, 0xFD3D), (0xFD50, 0xFDFC), (0xFE70, 0xFEFC), (0x10800, 0x10A00),
   (0x10A10, 0x10A35), (0x10A40, 0x10B35), (0x10B40, 0x10D23), (0x10E80, 0x10EA9), (0x10F00, 0x10FF6),
   (0x1E800, 0x1E8CF), (0x1E900, 0x1E943), (0x1EC71, 0x1EEBB)]

def isRightToLeft (c : Char) : Bool := Text.inRanges rightToLeftRanges c

/-- A letter that runs from left to right. -/
def isLeftToRight (c : Char) : Bool := c.isAlpha || (0xAA ≤ c.toNat && !isRightToLeft c && !Text.isMark c)

/-- A label that keeps one direction, in a name where some label runs from right to left. -/
def keepsDirection (label : List Char) : Bool :=
  match label with
  | [] => true
  | c :: _ =>
    if isRightToLeft c then !label.any isLeftToRight
    else isLeftToRight c && !label.any isRightToLeft

/-- A joiner stands where it has a meaning: after a virama, or between two letters of a script that joins them. -/
def joinersOk : List Char → Bool
  | a :: j :: rest =>
    let afterVirama := Text.combiningClass a.toNat == 9
    let between := j == '\u200c' && isRightToLeft a && (rest.head?).any isRightToLeft
    (!(j == '\u200c' || j == '\u200d') || afterVirama || between) && joinersOk (j :: rest)
  | _ => true

/-- A label beyond ASCII that a name may have. -/
def isValidLabel (label : List Char) : Bool :=
  !label.any (Text.inRanges disallowedRanges) && !label.any isForbidden &&
    !(label.head?).any (fun c => Text.isMark c || c == '\u200c' || c == '\u200d') && joinersOk label

def punyMark : List Char := ['x', 'n', '-', '-']

/-- The label as it reads, nothing for one that is not well formed. -/
def readLabel? (label : List Char) : Option (List Char) :=
  if punyMark.isPrefixOf label then
    match Punycode.decode? (label.drop 4) with
    | some t => if t.any (0x80 ≤ ·.toNat) && normalize t == t && isValidLabel t then some t else none
    | none => none
  else if isValidLabel label then some label
  else none

/-- The label in ASCII. -/
def asciiLabel (label : List Char) : List Char :=
  if label.all (·.toNat < 0x80) then label else punyMark ++ Punycode.encode label

/-- The domain name in ASCII. -/
def toAscii? (name : List Char) : Option (List Char) := do
  let parts ← (labels (normalize name)).mapM readLabel?
  if parts.any (·.any isRightToLeft) && !parts.all keepsDirection then none
  return List.intercalate ['.'] (parts.map asciiLabel)

end SchemaRelay.Url.Idna
