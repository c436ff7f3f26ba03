/-!
# Character classes given by ranges of code points

A Unicode property is a list of closed ranges of code points; `inRanges` is membership in their union.
-/

namespace SchemaRelay.Text

/-- Some range of the list contains the code point of `c`. -/
def inRanges (rs : List (Nat × Nat)) (c : Char) : Bool :=
  rs.any fun r => r.1 ≤ c.toNat && c.toNat ≤ r.2

theorem inRanges_iff {rs : List (Nat × Nat)} {c : Char} :
    inRanges rs c = true ↔ ∃ r ∈ rs, r.1 ≤ c.toNat ∧ c.toNat ≤ r.2 := by
  simp [inRanges]

end SchemaRelay.Text
