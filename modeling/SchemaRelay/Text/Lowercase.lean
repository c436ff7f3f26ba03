import SchemaRelay.Text.CaseTable

/-!
# Lower case

Full Unicode lower-casing of a text. All characters map on their own except the capital sigma, whose form depends
on its neighbours: it is final when a cased letter stands before it and none after it, case-ignorable characters
in between not counting.
-/

namespace SchemaRelay.Text

/-- The partner of code point `n` in the first run that holds it. -/
def lowerCode (n : Nat) : Nat :=
  match lowerRuns.find? fun (lo, hi, step, _) => lo ≤ n && n ≤ hi && (n - lo) % step == 0 with
  | some (_, _, _, d) => (n + d).toNat
  | none => n

/-- A capital letter I with a dot above keeps its dot as a combining character. -/
def lowerChar (c : Char) : List Char :=
  if c = '\u0130' then ['i', '\u0307'] else [Char.ofNat (lowerCode c.toNat)]

/-- The first character that is not case-ignorable is cased. -/
def casedNext (s : List Char) : Bool :=
  match s.dropWhile (inRanges caseIgnorableRanges) with
  | [] => false
  | c :: _ => inRanges casedRanges c

/-- Lower case of a text whose part before, read backwards, is `before`. -/
def lowerFrom : List Char → List Char → List Char
  | _, [] => []
  | before, c :: rest =>
    let low := if c = 'Σ' then [if casedNext before && !casedNext rest then 'ς' else 'σ'] else lowerChar c
    low ++ lowerFrom (c :: before) rest

/-- The text in lower case. -/
def lowercase (s : String) : String := String.ofList (lowerFrom [] s.toList)

end SchemaRelay.Text
