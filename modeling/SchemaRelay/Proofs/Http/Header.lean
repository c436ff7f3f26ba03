import SchemaRelay.Http.Header
import SchemaRelay.Proofs.Text.Utf8

/-!
# Texts and bytes of header fields

Which values read as text (`text?_eq_some_iff`), and that a text is known by its bytes (`bytes_injective`). What reads as
text can be sent (`isSendable_of_text?`) and has the bytes that it was read from (`bytes_of_text?`).
-/

namespace SchemaRelay.Http.Header

theorem isTextByte_iff (b : UInt8) : isTextByte b = true ↔ b = 9 ∨ (32 ≤ b ∧ b < 127) := by
  simp [isTextByte]

theorem text?_eq_some_iff {v : List UInt8} {e : String} :
    text? v = some e ↔
      (∀ b ∈ v, b = 9 ∨ (32 ≤ b ∧ b < 127)) ∧ e = String.ofList (v.map fun b => Char.ofNat b.toNat) := by
  unfold text?
  split
  · next h =>
    have hb : ∀ b ∈ v, b = 9 ∨ (32 ≤ b ∧ b < 127) := fun b hm => (isTextByte_iff b).1 (List.all_eq_true.1 h b hm)
    exact ⟨fun he => ⟨hb, (Option.some.inj he).symm⟩, fun he => by rw [he.2]⟩
  · next h =>
    refine ⟨fun he => (nomatch he), fun he => absurd ?_ h⟩
    exact List.all_eq_true.2 fun b hm => (isTextByte_iff b).2 (he.1 b hm)

/-- A text is known by its bytes. -/
theorem bytes_injective {a b : String} (h : bytes a = bytes b) : a = b := by
  rw [← String.toByteArray_inj, ← String.toUTF8_eq_toByteArray, Text.toUTF8_eq]
  exact (congrArg List.toByteArray h).trans (Text.toUTF8_eq b).symm

/-! ## Texts that were read -/

/-- The character of an ASCII byte. -/
theorem toNat_ofNat {b : UInt8} (hb : b < 127) : (Char.ofNat b.toNat).toNat = b.toNat := by
  have hlt : b.toNat < 127 := UInt8.lt_iff_toNat_lt.1 hb
  have hvalid : b.toNat.isValidChar := .inl (by omega)
  rw [Char.ofNat, dif_pos hvalid]
  rfl

theorem lt_of_text {b : UInt8} (h : b = 9 ∨ (32 ≤ b ∧ b < 127)) : b < 127 := by
  rcases h with rfl | h
  · decide
  · exact h.2

/-- The character of an ASCII byte is written as that byte. -/
theorem utf8EncodeChar_ofNat {b : UInt8} (hb : b < 127) : String.utf8EncodeChar (Char.ofNat b.toNat) = [b] := by
  have hlt : b.toNat < 127 := UInt8.lt_iff_toNat_lt.1 hb
  have hval : (Char.ofNat b.toNat).val.toNat = b.toNat := toNat_ofNat hb
  unfold String.utf8EncodeChar
  simp only [hval]
  rw [if_pos (by omega), UInt8.ofNat_toNat]

/-- A text has the bytes that it was read from. -/
theorem bytes_of_text? {v : List UInt8} {e : String} (h : text? v = some e) : bytes e = v := by
  obtain ⟨hv, rfl⟩ := text?_eq_some_iff.1 h
  have hone : v.map (fun b => String.utf8EncodeChar (Char.ofNat b.toNat)) = v.map fun b => [b] :=
    List.map_congr_left fun b hb => utf8EncodeChar_ofNat (lt_of_text (hv b hb))
  rw [bytes, String.toList_ofList, List.flatMap_map, List.flatMap_def, hone, ← List.flatMap_def]
  exact List.flatMap_singleton' v

/-- A text that was read can be sent. -/
theorem isSendable_of_text? {v : List UInt8} {e : String} (h : text? v = some e) : isSendable e = true := by
  obtain ⟨hv, rfl⟩ := text?_eq_some_iff.1 h
  rw [isSendable, String.toList_ofList, List.all_map]
  refine List.all_eq_true.2 fun b hb => ?_
  have hchar := toNat_ofNat (lt_of_text (hv b hb))
  rcases hv b hb with rfl | ⟨hlow, hhigh⟩
  · rfl
  · have hlow' : 32 ≤ b.toNat := UInt8.le_iff_toNat_le.1 hlow
    have hhigh' : b.toNat < 127 := UInt8.lt_iff_toNat_lt.1 hhigh
    have hne : b.toNat ≠ 127 := by omega
    simp [hchar, hlow', hne]

end SchemaRelay.Http.Header
