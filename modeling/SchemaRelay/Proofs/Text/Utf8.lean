/-!
# Texts and their bytes

Bytes are read as the text of which they are the UTF-8 bytes (`fromUTF8?_eq_some_iff`), if there is one.
-/

namespace SchemaRelay.Text

variable {bytes : ByteArray} {text : String}

theorem fromUTF8?_eq_some_iff : String.fromUTF8? bytes = some text ↔ bytes = text.toUTF8 := by
  unfold String.fromUTF8?
  split
  · next h =>
    rw [Option.some.injEq]
    constructor
    · rintro rfl
      rfl
    · rintro rfl
      rfl
  · next h =>
    refine ⟨nofun, ?_⟩
    rintro rfl
    exact absurd text.isValidUTF8 h

theorem fromUTF8?_toUTF8 (text : String) : String.fromUTF8? text.toUTF8 = some text :=
  fromUTF8?_eq_some_iff.2 rfl

theorem fromUTF8?_eq_none_iff : String.fromUTF8? bytes = none ↔ ¬bytes.IsValidUTF8 := by
  unfold String.fromUTF8?
  split
  · next h => simp [h]
  · next h => simp [h]

/-- The bytes of a text are those of its characters. -/
theorem toUTF8_eq (text : String) : text.toUTF8 = (text.toList.flatMap String.utf8EncodeChar).toByteArray := by
  conv => lhs; rw [← String.ofList_toList (s := text), String.toUTF8_eq_toByteArray, String.toByteArray_ofList]
  rfl

end SchemaRelay.Text
