import SchemaRelay.Proofs.Text.Utf8
import SchemaRelay.Url.Encode

/-!
# Percent encoding read back

What is encoded decodes to the bytes of the text (`decode_encode`), unless the text has a percent sign that is not
encoded itself. So it tells the name that it was made from (`fromUTF8?_decode_encode`). It has no other characters than
percent signs, letters and digits, and those of the text that need not be encoded (`of_mem_encode`).
-/

namespace SchemaRelay.Url

variable {set : Char → Bool} {c : Char} {s : List Char}

/-! ## Decoding -/

theorem hexValue?_digitChar : ∀ n < 16, Text.hexValue? (Nat.digitChar n).toUpper = some n := by decide

/-- An encoded byte decodes to that byte. -/
theorem decode_encodedByte (b : UInt8) (rest : List Char) : decode (encodedByte b ++ rest) = b :: decode rest := by
  have hlt : b.toNat < 256 := UInt8.toNat_lt b
  have hhigh := hexValue?_digitChar (b.toNat / 16) (by omega)
  have hlow := hexValue?_digitChar (b.toNat % 16) (by omega)
  have hbyte : 16 * (b.toNat / 16) + b.toNat % 16 = b.toNat := Nat.div_add_mod _ _
  simp [encodedByte, decode, hhigh, hlow, hbyte]

theorem decode_encodedBytes (bs : List UInt8) (rest : List Char) :
    decode (bs.flatMap encodedByte ++ rest) = bs ++ decode rest := by
  induction bs with
  | nil => rfl
  | cons b bs ih => rw [List.flatMap_cons, List.append_assoc, decode_encodedByte, ih, List.cons_append]

/-- A character that is no percent sign stands for its own bytes. -/
theorem decode_cons (hc : c ≠ '%') (rest : List Char) :
    decode (c :: rest) = String.utf8EncodeChar c ++ decode rest := by
  simp [decode, hc]

theorem decode_encodedChar (hc : c = '%' → set c = true) (rest : List Char) :
    decode (encodedChar set c ++ rest) = String.utf8EncodeChar c ++ decode rest := by
  unfold encodedChar
  split
  · next hplain =>
    have hne : c ≠ '%' := by
      intro heq
      simp [hc heq] at hplain
    exact decode_cons hne rest
  · exact decode_encodedBytes _ rest

/-- What is encoded decodes to the bytes of the text. -/
theorem decode_encode (hs : '%' ∈ s → set '%' = true) : decode (encode set s) = s.flatMap String.utf8EncodeChar := by
  induction s with
  | nil => rfl
  | cons c s ih =>
    have hc : c = '%' → set c = true := by
      rintro rfl
      exact hs List.mem_cons_self
    have htail := ih fun h => hs (List.mem_cons_of_mem _ h)
    rw [encode, List.flatMap_cons, decode_encodedChar hc, ← encode, htail, List.flatMap_cons]

/-- What is encoded tells the name that it was made from. -/
theorem fromUTF8?_decode_encode (hs : '%' ∈ s → set '%' = true) :
    String.fromUTF8? (decode (encode set s)).toByteArray = some (String.ofList s) := by
  rw [Text.fromUTF8?_eq_some_iff, decode_encode hs, Text.toUTF8_eq, String.toList_ofList]

/-! ## Characters -/

theorem isAlphanum_digitChar : ∀ n < 16, (Nat.digitChar n).toUpper.isAlphanum = true := by decide

theorem of_mem_encodedByte {b : UInt8} (h : c ∈ encodedByte b) : c = '%' ∨ c.isAlphanum = true := by
  have hlt : b.toNat < 256 := UInt8.toNat_lt b
  simp only [encodedByte, List.mem_cons, List.not_mem_nil, or_false] at h
  rcases h with rfl | rfl | rfl
  · exact .inl rfl
  · exact .inr (isAlphanum_digitChar _ (by omega))
  · exact .inr (isAlphanum_digitChar _ (by omega))

theorem of_mem_encode (h : c ∈ encode set s) :
    c = '%' ∨ c.isAlphanum = true ∨ (c ∈ s ∧ set c = false) := by
  obtain ⟨d, hd, hc⟩ := List.mem_flatMap.1 h
  unfold encodedChar at hc
  split at hc
  · next hplain =>
    obtain rfl := List.mem_singleton.1 hc
    rw [Bool.and_eq_true, Bool.not_eq_true'] at hplain
    exact .inr (.inr ⟨hd, hplain.2⟩)
  · obtain ⟨b, -, hb⟩ := List.mem_flatMap.1 hc
    exact (of_mem_encodedByte hb).imp_right .inl

/-- Nothing that is encoded has a separator which it could not have as it stands. -/
theorem not_mem_encode (hpercent : c ≠ '%') (hletter : c.isAlphanum = false) (hs : c ∈ s → set c = true) :
    c ∉ encode set s := by
  intro h
  rcases of_mem_encode h with hc | hc | ⟨hmem, hc⟩
  · exact hpercent hc
  · simp [hletter] at hc
  · simp [hs hmem] at hc

theorem encodedChar_ne_nil (set : Char → Bool) (c : Char) : encodedChar set c ≠ [] := by
  unfold encodedChar
  split
  · simp
  · have hlen : 0 < (String.utf8EncodeChar c).length := String.length_utf8EncodeChar c ▸ c.utf8Size_pos
    obtain ⟨b, bs, hbytes⟩ := List.exists_cons_of_length_pos hlen
    simp [hbytes, encodedByte]

theorem encode_eq_nil_iff : encode set s = [] ↔ s = [] := by
  cases s with
  | nil => simp [encode]
  | cons c s => simp [encode, encodedChar_ne_nil]

end SchemaRelay.Url
