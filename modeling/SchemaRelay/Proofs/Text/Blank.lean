import Mathlib.Data.List.DropRight
import SchemaRelay.Text.Blank

/-!
# Blank texts and the white space around texts

A text is blank if it has nothing but white space (`Blank`). Exactly the blank texts are trimmed to nothing
(`trim_eq_empty_iff`), and white space that is put around a text is trimmed off again (`trim_padded`). What is left of a
text has no white space at its ends (`head?_trimChars`, `getLast?_trimChars`), and such a text stays as it is
(`trimChars_eq_self`).
-/

namespace SchemaRelay.Text

/-- All characters are white space. -/
def Blank (s : String) : Prop := ∀ c ∈ s.toList, isBlank c = true

variable {s a b : String} {c : Char} {cs : List Char}

theorem allBlank_iff : allBlank s = true ↔ Blank s := List.all_eq_true

theorem not_blank_iff : ¬Blank s ↔ ∃ c ∈ s.toList, isBlank c = false := by
  simp [Blank]

/-- A text is not blank if its first character is not. -/
theorem not_blank_of_first (h : ∃ c cs, s = String.ofList (c :: cs) ∧ isBlank c = false) : ¬Blank s := by
  obtain ⟨c, cs, rfl, hc⟩ := h
  refine not_blank_iff.2 ⟨c, ?_, hc⟩
  rw [String.toList_ofList]
  exact List.mem_cons_self

theorem not_blank_append (h : ¬Blank a) (b : String) : ¬Blank (a ++ b) := by
  intro hab
  apply h
  intro c hc
  apply hab
  rw [String.toList_append]
  exact List.mem_append_left _ hc

/-- Letters in lower case that are not blank were not blank. -/
theorem isBlank_of_toLower {c : Char} (h : isBlank c.toLower = false) : isBlank c = false := by
  unfold Char.toLower at h
  split at h
  · next hupper =>
    have hrange : 65 ≤ c.toNat ∧ c.toNat ≤ 90 := hupper
    rw [Bool.eq_false_iff, Ne, isBlank, inRanges_iff]
    rintro ⟨r, hr, hle⟩
    simp only [blankRanges, List.mem_cons, List.not_mem_nil, or_false] at hr
    rcases hr with rfl | rfl | rfl | rfl | rfl | rfl | rfl | rfl | rfl | rfl <;> omega
  · exact h

/-! ## Trimming -/

theorem trimChars_eq (cs : List Char) : trimChars cs = (cs.dropWhile isBlank).rdropWhile isBlank := rfl

theorem trimChars_eq_nil_iff : trimChars cs = [] ↔ ∀ c ∈ cs, isBlank c = true := by
  rw [trimChars_eq, List.rdropWhile_eq_nil_iff, ← List.dropWhile_eq_nil_iff, List.dropWhile_idempotent,
    List.dropWhile_eq_nil_iff]

/-- Just the blank texts are trimmed to nothing. -/
theorem trim_eq_empty_iff : trim s = "" ↔ Blank s := by
  rw [trim, String.ofList_eq_empty_iff, trimChars_eq_nil_iff]
  rfl

theorem dropWhile_isBlank (h : ∀ c, cs.head? = some c → isBlank c = false) : cs.dropWhile isBlank = cs := by
  cases cs with
  | nil => rfl
  | cons c cs => rw [List.dropWhile_cons_of_neg (by simp [h c List.head?_cons])]

/-- A text without white space at its ends stays as it is. -/
theorem trimChars_eq_self (hh : ∀ c, cs.head? = some c → isBlank c = false)
    (hl : ∀ c, cs.getLast? = some c → isBlank c = false) : trimChars cs = cs := by
  have hback : ∀ c, cs.reverse.head? = some c → isBlank c = false := by
    intro c hc
    exact hl c (by rwa [List.head?_reverse] at hc)
  rw [trimChars, dropWhile_isBlank hh, dropWhile_isBlank hback, List.reverse_reverse]

/-- A text without white space stays as it is. -/
theorem trimChars_of_not_blank (h : ∀ c ∈ cs, isBlank c = false) : trimChars cs = cs :=
  trimChars_eq_self (fun c hc => h c (List.mem_of_head? hc)) fun c hc => h c (List.mem_of_getLast? hc)

/-- What is left of a text does not start with white space. -/
theorem head?_trimChars (h : (trimChars cs).head? = some c) : isBlank c = false := by
  obtain ⟨rest, hrest⟩ : trimChars cs <+: cs.dropWhile isBlank := List.rdropWhile_prefix isBlank _
  have hhead : (cs.dropWhile isBlank).head? = some c := by rw [← hrest, List.head?_append, h, Option.some_or]
  have hnot := List.head?_dropWhile_not isBlank cs
  rwa [hhead] at hnot

/-- What is left of a text does not end with white space. -/
theorem getLast?_trimChars (h : (trimChars cs).getLast? = some c) : isBlank c = false := by
  rw [trimChars, List.getLast?_reverse] at h
  have hnot := List.head?_dropWhile_not isBlank (cs.dropWhile isBlank).reverse
  rwa [h] at hnot

/-- What is trimmed off a text is white space around what is left. -/
theorem exists_padding (s : String) : ∃ before after, Blank before ∧ Blank after ∧ s = before ++ trim s ++ after := by
  let rest := s.toList.dropWhile isBlank
  let before := s.toList.takeWhile isBlank
  let after := (rest.reverse.takeWhile isBlank).reverse
  refine ⟨String.ofList before, String.ofList after, ?_, ?_, ?_⟩
  · intro c hc
    rw [String.toList_ofList] at hc
    exact List.mem_takeWhile_imp hc
  · intro c hc
    rw [String.toList_ofList, List.mem_reverse] at hc
    exact List.mem_takeWhile_imp hc
  · have hrest : trimChars s.toList ++ after = rest := by
      rw [trimChars, ← List.reverse_append, List.takeWhile_append_dropWhile, List.reverse_reverse]
    apply String.toList_injective
    rw [String.toList_append, String.toList_append, String.toList_ofList, String.toList_ofList, toList_trim,
      List.append_assoc, hrest, List.takeWhile_append_dropWhile]

theorem trimChars_padded {before after : List Char} (hb : ∀ c ∈ before, isBlank c = true)
    (ha : ∀ c ∈ after, isBlank c = true) : trimChars (before ++ cs ++ after) = trimChars cs := by
  have hfront : (before ++ cs ++ after).dropWhile isBlank = (cs ++ after).dropWhile isBlank := by
    rw [List.append_assoc, List.dropWhile_append_of_pos hb]
  unfold trimChars
  rw [hfront, List.dropWhile_append]
  split
  · next hempty =>
    have hcs : cs.dropWhile isBlank = [] := List.isEmpty_iff.1 hempty
    have hafter : after.dropWhile isBlank = [] := List.dropWhile_eq_nil_iff.2 ha
    rw [hcs, hafter]
  · have hrev : ∀ c ∈ after.reverse, isBlank c = true := fun c hc => ha c (List.mem_reverse.1 hc)
    rw [List.reverse_append, List.dropWhile_append_of_pos hrev]

/-- White space around a text is trimmed off. -/
theorem trim_padded (ha : Blank a) (hb : Blank b) (s : String) : trim (a ++ s ++ b) = trim s := by
  unfold trim
  rw [String.toList_append, String.toList_append, trimChars_padded ha hb]

end SchemaRelay.Text
