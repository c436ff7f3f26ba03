/-!
# Pieces of a text

`pieces` cuts a text at every character of a kind; the pieces around and between them may be empty, so there is one
piece more than there are cuts.
-/

namespace SchemaRelay.Text

/-- The pieces of a text between the characters that satisfy `cut`. -/
def pieces (cut : Char → Bool) : List Char → List (List Char)
  | [] => [[]]
  | c :: rest =>
    if cut c then [] :: pieces cut rest
    else match pieces cut rest with
      | p :: ps => (c :: p) :: ps
      | [] => [[c]]

theorem pieces_ne_nil (cut : Char → Bool) (s : List Char) : pieces cut s ≠ [] := by
  cases s with
  | nil => simp [pieces]
  | cons c rest =>
    simp only [pieces]
    split
    · simp
    · split <;> simp

end SchemaRelay.Text
