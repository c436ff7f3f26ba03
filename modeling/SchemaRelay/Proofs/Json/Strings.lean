import SchemaRelay.Json.Reader
import SchemaRelay.Json.Writer

/-!
# Strings in JSON text

A string that is written is read back with whatever comes after it (`stringChars_write`), since each character is read
back from what it is written as (`stringChars_escaped`), whether it is written as it is, with a letter or with its
number.
-/

namespace SchemaRelay

namespace JsonString

open Json.Reader

/-- A control character is read back from its number. -/
theorem unit?_hexPair :
    ∀ n < 0x20, unit? '0' '0' (Nat.digitChar (n / 16)) (Nat.digitChar (n % 16)) = some n := by
  decide

theorem stringChars_escaped (c : Char) (rest : List Char) :
    stringChars (escaped c ++ rest) = (stringChars rest).map fun r => (c :: r.1, r.2) := by
  unfold escaped
  split
  · next h => subst h; simp [stringChars, shortEscape?]
  split
  · next h => subst h; simp [stringChars, shortEscape?]
  split
  · next h => subst h; simp [stringChars, shortEscape?]
  split
  · next h => subst h; simp [stringChars, shortEscape?]
  split
  · next h => subst h; simp [stringChars, shortEscape?]
  split
  · next h => subst h; simp [stringChars, shortEscape?]
  split
  · next h => subst h; simp [stringChars, shortEscape?]
  split
  · next hc =>
    have hhigh : isHigh c.toNat = false := by simp [isHigh]; omega
    have hlow : isLow c.toNat = false := by simp [isLow]; omega
    simp [stringChars, hexPair, unit?_hexPair c.toNat hc, hhigh, hlow]
  · next _ hslash _ _ _ _ _ hc =>
    simp [stringChars, hslash, hc]

/-- What is written of a string starts with its quote. -/
theorem write_append (s : String) (rest : List Char) :
    write s ++ rest = '"' :: (s.toList.flatMap escaped ++ '"' :: rest) := by
  simp [write]

theorem stringChars_write (s : String) (rest : List Char) :
    stringChars (s.toList.flatMap escaped ++ '"' :: rest) = some (s.toList, rest) := by
  induction s.toList with
  | nil => rfl
  | cons c cs ih => rw [List.flatMap_cons, List.append_assoc, stringChars_escaped, ih, Option.map_some]

end JsonString

end SchemaRelay
