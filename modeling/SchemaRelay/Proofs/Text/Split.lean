import SchemaRelay.Text.Split

/-!
# Pieces put together

A text is cut into pieces without the characters that cut (`of_mem_pieces`), and pieces like that which are put
together with such characters between them are found again (`pieces_join`). The other way round, the pieces of a text
put together are the text (`intercalate_pieces`), and two texts with a cut between them have the pieces of both
(`pieces_append_cut`).
-/

namespace SchemaRelay.Text

variable {cut cut' : Char → Bool} {c : Char} {s t p : List Char} {ps : List (List Char)}

theorem pieces_cons_cut (hc : cut c = true) (s : List Char) : pieces cut (c :: s) = [] :: pieces cut s := by
  rw [pieces, if_pos hc]

/-- A character that does not cut belongs to the first piece. -/
theorem pieces_cons (hc : cut c = false) (h : pieces cut s = p :: ps) : pieces cut (c :: s) = (c :: p) :: ps := by
  rw [pieces, if_neg (by simp [hc]), h]

theorem exists_pieces (cut : Char → Bool) (s : List Char) : ∃ p ps, pieces cut s = p :: ps :=
  List.exists_cons_of_ne_nil (pieces_ne_nil cut s)

/-- Characters that do not cut belong to the first piece of what follows them. -/
theorem pieces_append (hs : ∀ c ∈ s, cut c = false) (h : pieces cut t = p :: ps) :
    pieces cut (s ++ t) = (s ++ p) :: ps := by
  induction s with
  | nil => exact h
  | cons c s ih =>
    have htail := ih fun d hd => hs d (List.mem_cons_of_mem _ hd)
    exact pieces_cons (hs c List.mem_cons_self) htail

/-- A text in which nothing cuts is one piece. -/
theorem pieces_of_uncut (h : ∀ c ∈ s, cut c = false) : pieces cut s = [s] := by
  have hnil : pieces cut [] = [[]] := rfl
  simpa using pieces_append h hnil

/-- Pieces are found again where each of them but the first stands after a character that cuts. -/
theorem pieces_join (hc : cut c = true) (hp : ∀ d ∈ p, cut d = false) (hps : ∀ q ∈ ps, ∀ d ∈ q, cut d = false) :
    pieces cut (p ++ ps.flatMap (c :: ·)) = p :: ps := by
  induction ps generalizing p with
  | nil => simpa using pieces_of_uncut hp
  | cons q ps ih =>
    have hrest := ih (hps q List.mem_cons_self) fun q' hq' => hps q' (List.mem_cons_of_mem _ hq')
    have hcut : pieces cut (c :: (q ++ ps.flatMap (c :: ·))) = [] :: q :: ps := by rw [pieces_cons_cut hc, hrest]
    simpa using pieces_append hp hcut

/-- A character that cuts stands between the pieces before it and those after it. -/
theorem pieces_append_cut (hc : cut c = true) (s t : List Char) :
    pieces cut (s ++ c :: t) = pieces cut s ++ pieces cut t := by
  induction s with
  | nil => rw [List.nil_append, pieces_cons_cut hc]; rfl
  | cons d s ih =>
    cases hd : cut d with
    | true => rw [List.cons_append, pieces_cons_cut hd, pieces_cons_cut hd, ih, List.cons_append]
    | false =>
      obtain ⟨p, ps, hp⟩ := exists_pieces cut s
      have hst : pieces cut (s ++ c :: t) = p :: (ps ++ pieces cut t) := by rw [ih, hp, List.cons_append]
      rw [List.cons_append, pieces_cons hd hp, pieces_cons hd hst, List.cons_append]

theorem pieces_eq_splitOnP (cut : Char → Bool) (s : List Char) : pieces cut s = s.splitOnP cut := by
  induction s with
  | nil => rfl
  | cons c s ih =>
    rw [List.splitOnP_cons_eq_if_modifyHead, ← ih]
    cases hc : cut c with
    | true => rw [pieces_cons_cut hc, if_pos rfl]
    | false =>
      obtain ⟨p, ps, hp⟩ := exists_pieces cut s
      rw [pieces_cons hc hp, hp, if_neg (by simp), List.modifyHead_cons]

/-- The pieces of a text with the character at which it was cut between them. -/
theorem intercalate_pieces (c : Char) (s : List Char) : [c].intercalate (pieces (· == c) s) = s := by
  rw [pieces_eq_splitOnP]
  exact List.intercalate_splitOn c

/-- No piece has a character that cuts, and all its characters are those of the text. -/
theorem of_mem_pieces (hp : p ∈ pieces cut s) (hc : c ∈ p) : cut c = false ∧ c ∈ s := by
  induction s generalizing p with
  | nil =>
    have hnil : p = [] := List.mem_singleton.1 hp
    rw [hnil] at hc
    cases hc
  | cons d s ih =>
    cases hd : cut d with
    | true =>
      rw [pieces_cons_cut hd] at hp
      rcases List.mem_cons.1 hp with rfl | hp
      · cases hc
      · exact (ih hp hc).imp_right (List.mem_cons_of_mem _)
    | false =>
      obtain ⟨q, qs, hq⟩ := exists_pieces cut s
      rw [pieces_cons hd hq] at hp
      rcases List.mem_cons.1 hp with rfl | hp
      · rcases List.mem_cons.1 hc with rfl | hc
        · exact ⟨hd, List.mem_cons_self⟩
        · exact (ih (hq ▸ List.mem_cons_self) hc).imp_right (List.mem_cons_of_mem _)
      · exact (ih (hq ▸ List.mem_cons_of_mem _ hp) hc).imp_right (List.mem_cons_of_mem _)

/-- A text is cut the same way by what cuts at the same of its characters. -/
theorem pieces_congr (h : ∀ c ∈ s, cut c = cut' c) : pieces cut s = pieces cut' s := by
  induction s with
  | nil => rfl
  | cons c s ih => rw [pieces, pieces, h c List.mem_cons_self, ih fun d hd => h d (List.mem_cons_of_mem _ hd)]

end SchemaRelay.Text
