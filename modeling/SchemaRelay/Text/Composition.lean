import SchemaRelay.Text.CompositionTable
import SchemaRelay.Text.Ranges

/-!
# Composed form

Texts that look the same can differ in whether an accent is part of a letter or stands after it. `compose` gives the
one form in which accents stand in their canonical order and are part of a letter wherever a composed letter exists.
-/

namespace SchemaRelay.Text

/-- The combining class of a code point, zero for a base character. -/
def combiningClass (n : Nat) : Nat :=
  match combiningRanges.find? fun r => r.1 ≤ n && n ≤ r.2.1 with
  | some r => r.2.2
  | none => 0

/-- A combining mark. -/
def isMark (c : Char) : Bool := inRanges markRanges c

/-- First code points of Hangul's syllables, leading consonants, vowels and trailing consonants. -/
def hangul : Nat × Nat × Nat × Nat := (0xAC00, 0x1100, 0x1161, 0x11A7)

/-- The code point composed of two, if there is one. -/
def composePair? (a b : Nat) : Option Nat :=
  let (s0, l0, v0, t0) := hangul
  if l0 ≤ a ∧ a < l0 + 19 ∧ v0 ≤ b ∧ b < v0 + 21 then some (s0 + ((a - l0) * 21 + (b - v0)) * 28)
  else if s0 ≤ a ∧ a < s0 + 11172 ∧ (a - s0) % 28 = 0 ∧ t0 < b ∧ b < t0 + 28 then some (a + (b - t0))
  else (compositions.find? fun r => r.2.1 == a && r.2.2 == b).map (·.1)

/-- The code points that one is composed of, taken apart `depth` times. -/
def decomposeCode : Nat → Nat → List Nat
  | 0, n => [n]
  | depth + 1, n =>
    let (s0, l0, v0, t0) := hangul
    if s0 ≤ n ∧ n < s0 + 11172 then
      let i := n - s0
      [l0 + i / 588, v0 + i % 588 / 28] ++ (if i % 28 = 0 then [] else [t0 + i % 28])
    else match compositions.find? fun r => r.1 == n with
      | some r => decomposeCode depth r.2.1 ++ [r.2.2]
      | none => [n]

/-- Puts a code point behind those of its class or a lower one, as far as marks go. -/
def insertMark (n : Nat) : List Nat → List Nat
  | [] => [n]
  | m :: ms => if combiningClass n < combiningClass m then n :: m :: ms else m :: insertMark n ms

/-- Canonical order: each run of marks sorted by class, `marks` being the run read so far. -/
def reorder (marks : List Nat) : List Nat → List Nat
  | [] => marks
  | n :: rest =>
    if combiningClass n = 0 then marks ++ n :: reorder [] rest else reorder (insertMark n marks) rest

/-- Joins marks to the base character before them. `between` stands after the base and did not join; a mark joins
unless one of the same class or a base stands in between. -/
def joinMarks (base : Option Nat) (between : List Nat) : List Nat → List Nat
  | [] => base.toList ++ between
  | n :: rest =>
    let k := combiningClass n
    let open' := match between.getLast? with
      | none => true
      | some m => combiningClass m < k
    match base.bind fun b => if open' then composePair? b n else none with
    | some p => joinMarks (some p) between rest
    | none =>
      if k = 0 then base.toList ++ between ++ joinMarks (some n) [] rest
      else joinMarks base (between ++ [n]) rest

/-- The composed form of a text. -/
def compose (s : List Char) : List Char :=
  (joinMarks none [] (reorder [] (s.flatMap fun c => decomposeCode 4 c.toNat))).map Char.ofNat

end SchemaRelay.Text
